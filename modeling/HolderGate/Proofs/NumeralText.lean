import Mathlib.Algebra.Group.Nat.Defs
import Mathlib.Data.List.TakeDrop
import HolderGate.Chain.Token
import HolderGate.Proofs.AddressText

/-! Numerals, and what is written with them: words and tokens. A number in any base up to sixteen is read back from its
digits, with as many zeros before them as there may be. -/
namespace HolderGate

namespace Text.Numeral

variable {base width limit n : Nat} {cs rest : List Char} {c : Char}

theorem digitsMember (read : digits? base cs = some n) (member : c ∈ cs) : Hex.value? c ≠ none := by
  obtain ⟨before, after, rfl⟩ := List.append_of_mem member
  intro none
  simp [digits?, none] at read

theorem digitsAppend (ds : List Char) (read : digits? base cs = some n) : digits? base (cs ++ ds) =
    ds.foldlM (fun n c => ((Hex.value? c).filter (· < base)).map (base * n + ·)) n := by
  rw [digits?, List.foldlM_append, ← digits?, read]
  rfl

theorem digitsToDigits (two : 2 ≤ base) (sixteen : base ≤ 16) (n : Nat) :
    digits? base (Nat.toDigits base n) = some n := by
  have digit : ∀ k < base, (Hex.value? k.digitChar).filter (· < base) = some k := by
    intro k small
    rw [Hex.charValue (Nat.lt_of_lt_of_le small sixteen), Option.filter_some, if_pos (by simpa using small)]
  induction n using Nat.strongRecOn with
  | ind n ih =>
    by_cases small : n < base
    · rw [Nat.toDigits_of_lt_base small]
      simp [digits?, digit n small]
    · have large : base ≤ n := Nat.not_lt.mp small
      have shorter : n / base < n := Nat.div_lt_self (by omega) two
      rw [Nat.toDigits_of_base_le two large, digitsAppend _ (ih _ shorter)]
      simp [digit (n % base) (Nat.mod_lt n (by omega)), Nat.div_add_mod]

theorem digitsZeros (k : Nat) (cs : List Char) (positive : 0 < base) :
    digits? base (List.replicate k '0' ++ cs) = digits? base cs := by
  induction k with
  | zero => rfl
  | succ k ih =>
    have zero : Hex.value? '0' = some 0 := by decide
    rw [List.replicate_succ, List.cons_append, digits?, List.foldlM_cons, zero, Option.filter_some,
      if_pos (by simpa using positive), Option.map_some]
    exact ih

structure Padded (width n : Nat) (cs : List Char) : Prop where
  length : cs.length = width
  digits : ∀ c ∈ cs, c.isDigit = true
  value : digits? 10 cs = some n

theorem paddedPadded (positive : 0 < width) (small : n < 10 ^ width) : Padded width n (padded width n).toList := by
  have fits : (Nat.toDigits 10 n).length ≤ width := (Nat.length_toDigits_le_iff (by decide) positive).mpr small
  rw [padded, String.toList_ofList]
  refine ⟨?_, fun c member => ?_, ?_⟩
  · rw [List.length_append, List.length_replicate]
    omega
  · rcases List.mem_append.mp member with zero | digit
    · cases List.eq_of_mem_replicate zero
      decide
    · exact Nat.isDigit_of_mem_toDigits (by decide) (by decide) digit
  · rw [digitsZeros _ _ (by decide), digitsToDigits (by decide) (by decide)]

theorem Padded.opens (written : Padded width n cs) (positive : 0 < width) :
    ∃ c more, cs = c :: more ∧ c.isDigit = true := by
  cases cs with
  | nil => exact absurd written.length (Nat.ne_of_lt positive)
  | cons c more => exact ⟨c, more, rfl, written.digits c List.mem_cons_self⟩

theorem Padded.run (written : Padded width n cs) (within : width ≤ limit)
    (ends : width = limit ∨ ∀ c ∈ rest.head?, c.isDigit = false) :
    ((cs ++ rest).take limit).takeWhile Char.isDigit = cs := by
  rw [List.take_append, List.take_of_length_le (by rw [written.length]; exact within),
    List.takeWhile_append_of_pos written.digits, written.length]
  rcases ends with rfl | ends
  · simp
  · cases rest with
    | nil => simp
    | cons c rest =>
      cases limit - width with
      | zero => simp
      | succ more => simp [ends c rfl]

end Text.Numeral

namespace Chain
open Text

theorem Word.parseText (w : Word) : parse? w.text = some w := by
  have value : Numeral.digits? 16 (Nat.toDigits 16 w.toNat) = some w.toNat :=
    Numeral.digitsToDigits (by decide) (by decide) _
  have plain : (Nat.toDigits 16 w.toNat).filter (· != '_') = Nat.toDigits 16 w.toNat := by
    refine List.filter_eq_self.mpr fun c member => ?_
    have digit := Numeral.digitsMember value member
    simp only [bne_iff_ne, ne_eq]
    rintro rfl
    exact digit (by decide)
  have characters : w.text.toList = '0' :: 'x' :: Nat.toDigits 16 w.toNat := by
    simp [text, Numeral.hexadecimal]
  have small : w.toNat < limit := w.isLt
  simp only [parse?, characters, base, true_or, if_true, plain, value, Option.filter_some, small, decide_true,
    Option.map_some, BitVec.ofNat_toNat, BitVec.setWidth_eq]

theorem Token.parseText (t : Token) : parse? t.text = some t := by
  have apart : ∀ c ∈ t.contract.text.toList, (c != '+') = true :=
    t.contract.textEach (by decide) (by decide) (by decide)
  have characters : t.text.toList = t.contract.text.toList ++ '+' :: t.id.text.toList := by
    simp [text]
  have before : t.text.toList.takeWhile (· != '+') = t.contract.text.toList := by
    rw [characters, List.takeWhile_append_of_pos apart]
    simp
  have after : t.text.toList.dropWhile (· != '+') = '+' :: t.id.text.toList := by
    rw [characters, List.dropWhile_append_of_pos apart]
    simp
  simp only [parse?, List.span_eq_takeWhile_dropWhile, before, after, String.ofList_toList, Address.parseText,
    Word.parseText, Option.bind_eq_bind, Option.bind_some]

theorem Token.textInjective {t u : Token} (same : t.text = u.text) : t = u :=
  Option.some.inj ((parseText t).symm.trans ((congrArg parse? same).trans (parseText u)))

end Chain
end HolderGate
