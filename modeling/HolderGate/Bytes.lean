/-! Octet strings: texts as UTF-8, and numbers as big-endian digits in base 256. -/
namespace HolderGate

abbrev Bytes := List UInt8

def utf8 (s : String) : Bytes := s.toUTF8.data.toList

def text? (octets : Bytes) : Option String := String.fromUTF8? ⟨octets.toArray⟩

theorem textOfUtf8 (s : String) : text? (utf8 s) = some s := by
  simp only [text?, utf8, String.fromUTF8?, Array.toArray_toList, String.toUTF8_eq_toByteArray]
  split
  · rfl
  · next h => exact absurd s.isValidUTF8 (by simpa using h)

theorem utf8Injective {s t : String} (h : utf8 s = utf8 t) : s = t :=
  Option.some.inj ((textOfUtf8 s).symm.trans ((congrArg text? h).trans (textOfUtf8 t)))

def bigEndian : Nat → Nat → Bytes
  | 0, _ => []
  | width + 1, n => bigEndian width (n / 256) ++ [UInt8.ofNat n]

def ofBigEndian (octets : Bytes) : Nat := octets.foldl (fun n octet => 256 * n + octet.toNat) 0

theorem bigEndianLength (width n : Nat) : (bigEndian width n).length = width := by
  induction width generalizing n with
  | zero => rfl
  | succ width ih => simp [bigEndian, ih]

theorem ofBigEndianAppend (octets : Bytes) (octet : UInt8) :
    ofBigEndian (octets ++ [octet]) = 256 * ofBigEndian octets + octet.toNat := by
  simp [ofBigEndian]

theorem ofBigEndianBigEndian (width n : Nat) : ofBigEndian (bigEndian width n) = n % Nat.pow 256 width := by
  induction width generalizing n with
  | zero => exact (Nat.mod_one n).symm
  | succ width ih =>
    have split : Nat.pow 256 (width + 1) = 256 * Nat.pow 256 width := Nat.mul_comm _ _
    rw [bigEndian, ofBigEndianAppend, ih, split, Nat.mod_mul, UInt8.toNat_ofNat']
    exact Nat.add_comm _ _

def chunks (size : Nat) (octets : Bytes) : List Bytes :=
  if _h : octets = [] ∨ size = 0 then []
  else octets.take size :: chunks size (octets.drop size)
termination_by octets.length
decreasing_by
  have := List.length_pos_iff.mpr (fun e => _h (.inl e))
  simp only [List.length_drop]
  omega

end HolderGate
