import HolderGate.Chain.Abi

/-! Data written as words of 32 octets. Arrays of words stand one behind another, each after its length, and a head
before them gives their places. What is written so is read back, word by word and array by array. -/
namespace HolderGate.Chain

namespace Word

theorem octetsLength (w : Word) : w.octets.length = 32 := bigEndianLength 32 _

theorem ofOctets (w : Word) : BitVec.ofNat 256 (ofBigEndian w.octets) = w := by
  have bound : w.toNat < Nat.pow 256 32 := w.isLt
  rw [octets, ofBigEndianBigEndian, Nat.mod_eq_of_lt bound, BitVec.ofNat_toNat, BitVec.setWidth_eq]

theorem toNatOfNat {n : Nat} (small : n < limit) : (BitVec.ofNat 256 n).toNat = n :=
  (BitVec.toNat_ofNat n 256).trans (Nat.mod_eq_of_lt small)

end Word

namespace Abi

def layout (words : List Word) : Bytes := words.flatMap Word.octets

def counted (array : List Word) : List Word := BitVec.ofNat 256 array.length :: array

def places : Nat → List (List Word) → List Nat
  | _, [] => []
  | start, array :: rest => start :: places (start + (counted array).length) rest

def head (arrays : List (List Word)) : List Word :=
  (places arrays.length arrays).map fun place => BitVec.ofNat 256 (32 * place)

def arranged (arrays : List (List Word)) : List Word := head arrays ++ arrays.flatMap counted

variable {w : Word} {words array front after : List Word} {arrays : List (List Word)} {count i k : Nat}

theorem layoutCons : layout (w :: words) = w.octets ++ layout words := rfl

theorem layoutLength : (layout words).length = 32 * words.length := by
  induction words with
  | nil => rfl
  | cons w words ih =>
    rw [layoutCons, List.length_append, Word.octetsLength, ih, List.length_cons]
    omega

theorem layoutDrop : (layout words).drop (32 * k) = layout (words.drop k) := by
  induction k generalizing words with
  | zero => rfl
  | succ k ih =>
    cases words with
    | nil => exact List.drop_nil
    | cons w words =>
      rw [layoutCons, Nat.mul_succ, Nat.add_comm, ← List.drop_drop, ← Word.octetsLength w, List.drop_left,
        Word.octetsLength, ih, List.drop_succ_cons]

theorem layoutTake : (layout words).take (32 * k) = layout (words.take k) := by
  induction k generalizing words with
  | zero => rfl
  | succ k ih =>
    cases words with
    | nil => exact List.take_nil
    | cons w words =>
      rw [layoutCons, Nat.mul_succ, Nat.add_comm, ← Word.octetsLength w, List.take_length_add_append,
        Word.octetsLength, ih, List.take_succ_cons, layoutCons]

theorem layoutChunks : chunks 32 (layout words) = words.map Word.octets := by
  induction words with
  | nil =>
    rw [chunks]
    rfl
  | cons w words ih =>
    have some : ¬ (layout (w :: words) = [] ∨ 32 = 0) := by
      rw [← List.length_eq_zero_iff, layoutLength]
      simp
    rw [chunks, dif_neg some, layoutCons, List.map_cons, ← Word.octetsLength w, List.take_left, List.drop_left,
      Word.octetsLength, ih]

theorem wordRead : wordAt? (layout words) (32 * k) = words[k]? := by
  unfold wordAt?
  rw [layoutDrop, ← List.head?_drop]
  cases words.drop k with
  | nil => rfl
  | cons w rest =>
    have octets : (layout (w :: rest)).take 32 = w.octets := by
      rw [layoutCons, ← Word.octetsLength w, List.take_left]
    simp only [octets, Word.octetsLength, Word.ofOctets, if_true, List.head?_cons]

theorem wordsRead (enough : count ≤ words.length) : words? (layout words) count = some (words.take count) := by
  unfold words?
  rw [if_pos (by rw [layoutLength]; omega), layoutTake, layoutChunks, List.map_map]
  simp [Function.comp_def, Word.ofOctets]

theorem arrayAt {offset : Word} (named : words[i]? = some offset) (there : offset.toNat = 32 * k)
    (begins : words.drop k = counted array ++ after) (small : array.length < Word.limit) :
    array? (layout words) i = some array := by
  have first : words[k]? = some (BitVec.ofNat 256 array.length) := by
    rw [← List.head?_drop, begins]
    rfl
  have rest : (layout words).drop (32 * k + 32) = layout (array ++ after) := by
    rw [← Nat.mul_succ, layoutDrop, Nat.succ_eq_add_one, ← List.drop_drop, begins]
    rfl
  have within : k ≤ words.length := by
    have whole := congrArg List.length begins
    simp only [List.length_drop, List.length_append, counted, List.length_cons] at whole
    omega
  simp only [array?, wordRead, named, there, bind, Option.bind_some]
  rw [if_pos (by rw [layoutLength]; omega), first, Option.bind_some, rest, Word.toNatOfNat small,
    wordsRead (by simp), List.take_left]

theorem placesLength (start : Nat) : (places start arrays).length = arrays.length := by
  induction arrays generalizing start with
  | nil => rfl
  | cons array rest ih => exact congrArg (· + 1) (ih _)

theorem placed (front : List Word) (among : arrays[i]? = some array) :
    ∃ k after, (places front.length arrays)[i]? = some k ∧
      (front ++ arrays.flatMap counted).drop k = counted array ++ after := by
  induction arrays generalizing i front with
  | nil => simp at among
  | cons first rest ih =>
    cases i with
    | zero =>
      cases Option.some.inj among
      exact ⟨front.length, rest.flatMap counted, rfl, List.drop_left⟩
    | succ i =>
      -- The arrays that are left stand behind the first one, so it belongs to what is before them.
      obtain ⟨k, after, place, begins⟩ := ih (front ++ counted first) among
      refine ⟨k, after, ?_, ?_⟩
      · rwa [List.length_append] at place
      · rwa [List.append_assoc] at begins

theorem headLength : (head arrays).length = arrays.length := by rw [head, List.length_map, placesLength]

theorem arrayRead (fits : (layout (arranged arrays)).length < Word.limit) (among : arrays[i]? = some array) :
    array? (layout (arranged arrays)) i = some array := by
  obtain ⟨k, after, place, begins⟩ := placed (head arrays) among
  rw [headLength] at place
  have named : (arranged arrays)[i]? = some (BitVec.ofNat 256 (32 * k)) := by
    have inside : i < (head arrays).length := headLength ▸ (List.getElem?_eq_some_iff.mp among).1
    rw [arranged, List.getElem?_append_left inside, head, List.getElem?_map, place]
    rfl
  rw [layoutLength] at fits
  rw [← arranged] at begins
  have ends : (arranged arrays).length - k = (array.length + after.length) + 1 := by
    rw [← List.length_drop, begins, counted, List.cons_append, List.length_cons, List.length_append]
  exact arrayAt named (Word.toNatOfNat (by omega)) begins (by omega)

end Abi
end HolderGate.Chain
