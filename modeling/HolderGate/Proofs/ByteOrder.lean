import HolderGate.Bytes

/-! The order of octet strings. Strings of one length are compared before what follows them, and
big-endian numbers of one width are in the order of the numbers. -/
namespace HolderGate

theorem compareAppend {a b : Bytes} (same : a.length = b.length) (x y : Bytes) :
    compare (a ++ x) (b ++ y) = (compare a b).then (compare x y) := by
  induction a generalizing b with
  | nil =>
    cases List.length_eq_zero_iff.mp same.symm
    simp
  | cons p ps ih =>
    cases b with
    | nil => simp at same
    | cons q qs =>
      simp only [List.cons_append, List.compare_cons_cons]
      rw [ih (by simpa using same), Ordering.then_assoc]

theorem notAfter {a b : Bytes} : (compare a b).isLE ↔ ¬ compare b a = .lt := by
  rw [← Std.OrientedCmp.gt_iff_lt]
  cases compare a b <;> simp

theorem compareOctet (p q : UInt8) : compare p q = compare p.toNat q.toNat := by
  rcases Nat.lt_trichotomy p.toNat q.toNat with less | same | more
  · rw [Nat.compare_eq_lt.mpr less]
    simp [compare, compareOfLessAndEq, UInt8.lt_iff_toNat_lt, less]
  · cases UInt8.toNat_inj.mp same
    simp
  · rw [Nat.compare_eq_gt.mpr more]
    have differ : p ≠ q := by rintro rfl; exact Nat.lt_irrefl _ more
    simp [compare, compareOfLessAndEq, UInt8.lt_iff_toNat_lt, Nat.not_lt.mpr (Nat.le_of_lt more), differ]

theorem compareDigits (m n : Nat) :
    compare m n = (compare (m / 256) (n / 256)).then (compare (m % 256) (n % 256)) := by
  rcases Nat.lt_trichotomy (m / 256) (n / 256) with less | same | more
  · rw [Nat.compare_eq_lt.mpr less, Nat.compare_eq_lt.mpr (by omega)]
    rfl
  · rw [Nat.compare_eq_eq.mpr same]
    rcases Nat.lt_trichotomy (m % 256) (n % 256) with less | equal | more
    · rw [Nat.compare_eq_lt.mpr less, Nat.compare_eq_lt.mpr (by omega)]
      rfl
    · rw [Nat.compare_eq_eq.mpr equal, Nat.compare_eq_eq.mpr (by omega)]
      rfl
    · rw [Nat.compare_eq_gt.mpr more, Nat.compare_eq_gt.mpr (by omega)]
      rfl
  · rw [Nat.compare_eq_gt.mpr more, Nat.compare_eq_gt.mpr (by omega)]
    rfl

theorem compareBigEndian {width m n : Nat} (hm : m < Nat.pow 256 width) (hn : n < Nat.pow 256 width) :
    compare (bigEndian width m) (bigEndian width n) = compare m n := by
  induction width generalizing m n with
  | zero =>
    have zero : m = 0 ∧ n = 0 := by simp at hm hn; exact ⟨hm, hn⟩
    simp [zero.1, zero.2]
  | succ width ih =>
    have bound : Nat.pow 256 (width + 1) = 256 * Nat.pow 256 width := Nat.mul_comm _ _
    have high : compare (bigEndian width (m / 256)) (bigEndian width (n / 256)) =
        compare (m / 256) (n / 256) := ih (by omega) (by omega)
    have low : compare [UInt8.ofNat m] [UInt8.ofNat n] = compare (m % 256) (n % 256) := by
      simp [List.compare_cons_cons, compareOctet]
    rw [bigEndian, bigEndian, compareAppend (by simp only [bigEndianLength]), high, low,
      ← compareDigits]

end HolderGate
