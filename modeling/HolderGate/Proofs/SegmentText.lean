import HolderGate.Text.Base64Url
import HolderGate.Text.Split

/-! The segments of a token. Base 64 has one text for each octet string, none of its characters is a dot, and
parts between dots are found again where they were put. -/
namespace HolderGate.Text

namespace Base64Url

theorem valueOfChar {n : Nat} (small : n < 64) : value? (char n) = some n := by
  have each : (List.range 64).all (fun n => value? (char n) == some n) = true := by decide
  exact beq_iff_eq.mp (List.all_eq_true.mp each n (List.mem_range.mpr small))

theorem charOfValue {c : Char} {n : Nat} (found : value? c = some n) : n < 64 ∧ char n = c := by
  obtain ⟨bound, same, _⟩ := List.idxOf?_eq_some_iff.mp found
  have length : alphabet.length = 64 := by decide
  refine ⟨length ▸ bound, ?_⟩
  rw [char, List.getD_eq_getElem?_getD, List.getElem?_eq_getElem bound]
  exact same

theorem octetOf {o : UInt8} {n : Nat} (same : n = o.toNat) : UInt8.ofNat n = o := by
  rw [same, UInt8.ofNat_toNat]

theorem toNatOf {n : Nat} (small : n < 256) : (UInt8.ofNat n).toNat = n := by
  rw [UInt8.toNat_ofNat', Nat.mod_eq_of_lt small]

theorem decodeEncode (octets : Bytes) : decode? (encode octets) = some octets := by
  fun_induction encode octets with
  | case1 => rfl
  | case2 a =>
    have ha := a.toNat_lt
    have first := valueOfChar (n := a.toNat / 4) (by omega)
    have second := valueOfChar (n := a.toNat % 4 * 16) (by omega)
    have spare : a.toNat % 4 * 16 % 16 = 0 := by omega
    have back := octetOf (o := a) (n := a.toNat / 4 * 4 + a.toNat % 4 * 16 / 16) (by omega)
    simp only [decode?, first, second, spare, back, Option.bind_eq_bind, Option.bind_some, if_true]
  | case3 a b =>
    have ha := a.toNat_lt
    have hb := b.toNat_lt
    have first := valueOfChar (n := a.toNat / 4) (by omega)
    have second := valueOfChar (n := a.toNat % 4 * 16 + b.toNat / 16) (by omega)
    have third := valueOfChar (n := b.toNat % 16 * 4) (by omega)
    have spare : b.toNat % 16 * 4 % 4 = 0 := by omega
    have backA := octetOf (o := a) (n := a.toNat / 4 * 4 + (a.toNat % 4 * 16 + b.toNat / 16) / 16) (by omega)
    have backB := octetOf (o := b)
      (n := (a.toNat % 4 * 16 + b.toNat / 16) % 16 * 16 + b.toNat % 16 * 4 / 4) (by omega)
    simp only [decode?, first, second, third, spare, backA, backB, Option.bind_eq_bind, Option.bind_some, if_true]
  | case4 a b c rest ih =>
    have ha := a.toNat_lt
    have hb := b.toNat_lt
    have hc := c.toNat_lt
    have first := valueOfChar (n := a.toNat / 4) (by omega)
    have second := valueOfChar (n := a.toNat % 4 * 16 + b.toNat / 16) (by omega)
    have third := valueOfChar (n := b.toNat % 16 * 4 + c.toNat / 64) (by omega)
    have fourth := valueOfChar (n := c.toNat % 64) (by omega)
    have backA := octetOf (o := a) (n := a.toNat / 4 * 4 + (a.toNat % 4 * 16 + b.toNat / 16) / 16) (by omega)
    have backB := octetOf (o := b)
      (n := (a.toNat % 4 * 16 + b.toNat / 16) % 16 * 16 + (b.toNat % 16 * 4 + c.toNat / 64) / 4) (by omega)
    have backC := octetOf (o := c) (n := (b.toNat % 16 * 4 + c.toNat / 64) % 4 * 64 + c.toNat % 64) (by omega)
    simp only [decode?, first, second, third, fourth, ih, backA, backB, backC, Option.bind_eq_bind,
      Option.bind_some]

theorem encodeDecode {cs : List Char} {octets : Bytes} (read : decode? cs = some octets) : encode octets = cs := by
  fun_induction decode? cs generalizing octets with
  | case1 =>
    cases read
    rfl
  | case2 => contradiction
  | case3 a b =>
    simp only [Option.bind_eq_bind, Option.bind_eq_some_iff, Option.ite_none_right_eq_some] at read
    obtain ⟨x, foundA, y, foundB, spare, same⟩ := read
    cases same
    obtain ⟨hx, rfl⟩ := charOfValue foundA
    obtain ⟨hy, rfl⟩ := charOfValue foundB
    have first : (x * 4 + y / 16) / 4 = x := by omega
    have second : (x * 4 + y / 16) % 4 * 16 = y := by omega
    rw [encode, toNatOf (by omega), first, second]
  | case4 a b c =>
    simp only [Option.bind_eq_bind, Option.bind_eq_some_iff, Option.ite_none_right_eq_some] at read
    obtain ⟨x, foundA, y, foundB, z, foundC, spare, same⟩ := read
    cases same
    obtain ⟨hx, rfl⟩ := charOfValue foundA
    obtain ⟨hy, rfl⟩ := charOfValue foundB
    obtain ⟨hz, rfl⟩ := charOfValue foundC
    have first : (x * 4 + y / 16) / 4 = x := by omega
    have second : (x * 4 + y / 16) % 4 * 16 + (y % 16 * 16 + z / 4) / 16 = y := by omega
    have third : (y % 16 * 16 + z / 4) % 16 * 4 = z := by omega
    rw [encode, toNatOf (by omega), toNatOf (by omega), first, second, third]
  | case5 a b c d rest ih =>
    simp only [Option.bind_eq_bind, Option.bind_eq_some_iff] at read
    obtain ⟨x, foundA, y, foundB, z, foundC, w, foundD, more, foundRest, same⟩ := read
    cases same
    obtain ⟨hx, rfl⟩ := charOfValue foundA
    obtain ⟨hy, rfl⟩ := charOfValue foundB
    obtain ⟨hz, rfl⟩ := charOfValue foundC
    obtain ⟨hw, rfl⟩ := charOfValue foundD
    have first : (x * 4 + y / 16) / 4 = x := by omega
    have second : (x * 4 + y / 16) % 4 * 16 + (y % 16 * 16 + z / 4) / 16 = y := by omega
    have third : (y % 16 * 16 + z / 4) % 16 * 4 + (z % 4 * 64 + w) / 64 = z := by omega
    have fourth : (z % 4 * 64 + w) % 64 = w := by omega
    rw [encode, toNatOf (by omega), toNatOf (by omega), toNatOf (by omega), first, second, third, fourth,
      ih foundRest]

theorem decodeIff {cs : List Char} {octets : Bytes} : decode? cs = some octets ↔ cs = encode octets :=
  ⟨fun read => (encodeDecode read).symm, fun same => same ▸ decodeEncode octets⟩

theorem charApart (n : Nat) : char n ≠ '.' := by
  have all : ('A' :: alphabet).all (· != '.') = true := by decide
  refine bne_iff_ne.mp (List.all_eq_true.mp all _ ?_)
  rw [char, List.getD_eq_getElem?_getD]
  cases found : alphabet[n]? with
  | none => exact List.mem_cons_self
  | some c => exact List.mem_cons_of_mem _ (List.mem_of_getElem? found)

theorem encodeApart (octets : Bytes) : '.' ∉ encode octets := by
  have apart : ∀ n, '.' ≠ char n := fun n => (charApart n).symm
  fun_induction encode octets with
  | case1 => simp
  | case2 a => simp [apart]
  | case3 a b => simp [apart]
  | case4 a b c rest ih => simp [apart, ih]

end Base64Url

variable {separator : Char} {cs part rest : List Char} {parts : List (List Char)}

theorem splitAlone (free : separator ∉ part) : split separator part = [part] := by
  induction part with
  | nil => rfl
  | cons c part ih =>
    obtain ⟨differ, free⟩ := List.ne_and_not_mem_of_not_mem_cons free
    rw [split, if_neg (Ne.symm differ), ih free]

theorem splitFirst (free : separator ∉ part) :
    split separator (part ++ separator :: rest) = part :: split separator rest := by
  induction part with
  | nil => exact if_pos rfl
  | cons c part ih =>
    obtain ⟨differ, free⟩ := List.ne_and_not_mem_of_not_mem_cons free
    rw [List.cons_append, split, if_neg (Ne.symm differ), ih free]

theorem splitParts (separator : Char) (cs : List Char) :
    ∃ part parts, split separator cs = part :: parts ∧ separator ∉ part ∧
      (parts = [] → cs = part) ∧
      (parts ≠ [] → ∃ rest, cs = part ++ separator :: rest ∧ split separator rest = parts) := by
  induction cs with
  | nil => exact ⟨[], [], rfl, by simp, fun _ => rfl, fun some => absurd rfl some⟩
  | cons c cs ih =>
    obtain ⟨part, parts, found, free, last, more⟩ := ih
    by_cases same : c = separator
    · subst same
      refine ⟨[], part :: parts, ?_, by simp, by simp, fun _ => ⟨cs, rfl, found⟩⟩
      rw [split, if_pos rfl, found]
    · refine ⟨c :: part, parts, ?_, ?_, ?_, ?_⟩
      · rw [split, if_neg same, found]
      · exact List.not_mem_cons_of_ne_of_not_mem (Ne.symm same) free
      · intro none
        rw [last none]
      · intro some
        obtain ⟨rest, whole, tail⟩ := more some
        exact ⟨rest, by rw [whole, List.cons_append], tail⟩

theorem splitThree {a b c : List Char} : split separator cs = [a, b, c] ↔
    cs = a ++ separator :: b ++ separator :: c ∧ separator ∉ a ∧ separator ∉ b ∧ separator ∉ c := by
  constructor
  · intro found
    obtain ⟨p, ps, first, freeA, _, more⟩ := splitParts separator cs
    rw [found] at first
    obtain ⟨rfl, rfl⟩ := List.cons.inj first
    obtain ⟨rest, whole, found⟩ := more (by simp)
    obtain ⟨p, ps, second, freeB, _, more⟩ := splitParts separator rest
    rw [found] at second
    obtain ⟨rfl, rfl⟩ := List.cons.inj second
    obtain ⟨last, tail, found⟩ := more (by simp)
    obtain ⟨p, ps, third, freeC, only, _⟩ := splitParts separator last
    rw [found] at third
    obtain ⟨rfl, rfl⟩ := List.cons.inj third
    have ends := only rfl
    subst ends tail
    exact ⟨by simp [whole], freeA, freeB, freeC⟩
  · rintro ⟨rfl, freeA, freeB, freeC⟩
    rw [List.append_assoc, List.cons_append, splitFirst freeA, splitFirst freeB, splitAlone freeC]

end HolderGate.Text
