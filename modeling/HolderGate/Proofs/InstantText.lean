import HolderGate.Proofs.CalendarDay
import HolderGate.Proofs.NumeralText
import HolderGate.Time.Rfc3339

/-! Instants as text. What is written for an instant of the years 0 to 9999, leap seconds aside, is read back field by
field as that instant. -/
namespace HolderGate.Time

def Timestamp.Civil (t : Timestamp) : Prop :=
  0 ≤ (Date.ofDays (t.seconds / 86400)).year ∧ (Date.ofDays (t.seconds / 86400)).year ≤ 9999 ∧ t.nanos < 1000000000

instance (t : Timestamp) : Decidable t.Civil := inferInstanceAs (Decidable (_ ∧ _ ∧ _))

namespace Rfc3339
open Text Numeral
variable {width limit n : Nat} {cs rest : List Char}

theorem digitsRead (written : Padded width n cs) (positive : 0 < width) (within : width ≤ limit)
    (ends : width = limit ∨ ∀ c ∈ rest.head?, c.isDigit = false) :
    digits (some limit) (cs ++ rest) = some (n, rest) := by
  obtain ⟨c, more, opens, _⟩ := written.opens positive
  have nonempty : cs.isEmpty = false := by rw [opens, List.isEmpty_cons]
  simp only [digits, written.run within ends, nonempty, written.value, Option.map_some, List.drop_left]
  rfl

theorem trimVisible {c : Char} (visible : isBlank c = false) : trimLeft (c :: rest) = c :: rest := by
  simp [trimLeft, visible]

theorem digitVisible {c : Char} (digit : c.isDigit = true) : isBlank c = false := by
  simp only [Char.isDigit, Bool.and_eq_true, decide_eq_true_eq] at digit
  obtain ⟨low, high⟩ := digit
  have low : 48 ≤ c.toNat := low
  have high : c.toNat ≤ 57 := high
  simp only [isBlank]
  grind

theorem trimDigits (written : Padded width n cs) (positive : 0 < width) (rest : List Char) :
    trimLeft (cs ++ rest) = cs ++ rest := by
  obtain ⟨c, more, rfl, digit⟩ := written.opens positive
  exact trimVisible (digitVisible digit)

theorem fieldRead {low high : Nat} (written : Padded 2 n cs) (bounds : low ≤ n ∧ n ≤ high) :
    field low high (cs ++ rest) = some (n, rest) := by
  simp only [field, trimDigits written (by decide), digitsRead written (by decide) (Nat.le_refl 2) (.inl rfl)]
  exact if_pos bounds

theorem yearRead (written : Padded 4 n cs) (rest : List Char) : year (cs ++ rest) = some ((n : Int), rest) := by
  have head : ∀ c more, cs ++ rest = c :: more → c.isDigit = true := by
    obtain ⟨d, more, rfl, digit⟩ := written.opens (by decide)
    rintro c _ ⟨⟩
    exact digit
  unfold year
  rw [trimDigits written (by decide)]
  split
  next more same => exact absurd (head _ _ same) (by decide)
  next more same => exact absurd (head _ _ same) (by decide)
  next =>
    rw [digitsRead written (by decide) (Nat.le_refl 4) (.inl rfl)]
    rfl

theorem literalRead {c : Char} (visible : isBlank c = false) (rest : List Char) :
    literal c (trimLeft (c :: rest)) = some ((), rest) := by
  rw [trimVisible visible]
  exact if_pos rfl

theorem fractionDigits (written : Padded width n cs) (positive : 0 < width) (within : width ≤ 9) :
    fraction ('.' :: (cs ++ ['Z'])) = some (n * 10 ^ (9 - width), ['Z']) := by
  have ends : ∀ c ∈ ['Z'].head?, c.isDigit = false := by
    rintro c ⟨⟩
    decide
  simp only [fraction, written.run within (.inr ends), digitsRead written positive within (.inr ends), written.length]
  rfl

theorem fractionRead (small : n < 1000000000) : fraction ((writeFraction n).toList ++ ['Z']) = some (n, ['Z']) := by
  have shown : ∀ width k, 0 < width → width ≤ 9 → k < 10 ^ width →
      fraction (("." ++ padded width k).toList ++ ['Z']) = some (k * 10 ^ (9 - width), ['Z']) := by
    intro width k positive within fits
    rw [String.toList_append]
    exact fractionDigits (paddedPadded positive fits) positive within
  unfold writeFraction
  split
  next zero => rw [zero]; rfl
  split
  next millis =>
    rw [shown 3 _ (by decide) (by decide) (by omega)]
    exact congrArg (fun k => some (k, ['Z'])) (by omega)
  split
  next micros =>
    rw [shown 6 _ (by decide) (by decide) (by omega)]
    exact congrArg (fun k => some (k, ['Z'])) (by omega)
  next =>
    rw [shown 9 _ (by decide) (by decide) (by omega)]
    exact congrArg (fun k => some (k, ['Z'])) (by omega)

variable {ys ms ds hs ns ss : List Char} {y mo d h mi s : Nat}

theorem dateRead (years : Padded 4 y ys) (months : Padded 2 mo ms) (days : Padded 2 d ds) (early : y ≤ 9999)
    (valid : Date.Valid ⟨y, mo, d⟩) (rest : List Char) :
    date (ys ++ '-' :: (ms ++ '-' :: (ds ++ rest))) = some (Date.toDays ⟨y, mo, d⟩, rest) := by
  obtain ⟨low, high, first, last⟩ := valid
  have longest := Date.monthLengthLe y mo
  have bounds : firstYear ≤ (y : Int) ∧ (y : Int) ≤ lastYear := by
    simp only [firstYear, lastYear]
    omega
  simp only [date, yearRead years, literalRead (show isBlank '-' = false by decide), fieldRead months ⟨low, high⟩,
    fieldRead days ⟨first, Nat.le_trans last longest⟩, Option.bind_eq_bind, Option.bind_some]
  exact if_pos ⟨bounds.1, bounds.2, low, high, first, last⟩

theorem clockRead (hours : Padded 2 h hs) (minutes : Padded 2 mi ns) (seconds : Padded 2 s ss)
    (bounds : h ≤ 23 ∧ mi ≤ 59 ∧ s ≤ 59) (small : n < 1000000000) :
    clock (hs ++ ':' :: (ns ++ ':' :: (ss ++ ((writeFraction n).toList ++ ['Z'])))) =
      some ((3600 * h + 60 * mi + s, n), ['Z']) := by
  obtain ⟨hourly, minutely, secondly⟩ := bounds
  simp only [clock, literalRead (show isBlank ':' = false by decide), fieldRead hours ⟨Nat.zero_le h, hourly⟩,
    fieldRead minutes ⟨Nat.zero_le mi, minutely⟩, fieldRead seconds ⟨Nat.zero_le s, Nat.le_succ_of_le secondly⟩,
    fractionRead small, Option.bind_eq_bind, Option.bind_some]
  exact if_neg (by omega)

theorem writeCivil {t : Timestamp} (civil : t.Civil) (d : Date) (clock : Nat)
    (day : d = Date.ofDays (t.seconds / 86400)) (time : clock = (t.seconds % 86400).toNat) :
    (write t).toList = (padded 4 d.year.toNat).toList ++ '-' :: ((padded 2 d.month).toList ++ '-' ::
      ((padded 2 d.day).toList ++ 'T' :: ((padded 2 (clock / 3600)).toList ++ ':' ::
        ((padded 2 (clock / 60 % 60)).toList ++ ':' :: ((padded 2 (clock % 60)).toList ++
          ((writeFraction t.nanos).toList ++ ['Z'])))))) := by
  obtain ⟨low, high, small⟩ := civil
  subst day time
  have years : writeYear (Date.ofDays (t.seconds / 86400)).year =
      padded 4 (Date.ofDays (t.seconds / 86400)).year.toNat := if_pos ⟨low, high⟩
  have leap : ¬ 1000000000 ≤ t.nanos := Nat.not_le.mpr small
  simp [write, years, leap]

theorem readWrite {t : Timestamp} (civil : t.Civil) : read? (write t) = some t := by
  obtain ⟨d, day⟩ : ∃ d, d = Date.ofDays (t.seconds / 86400) := ⟨_, rfl⟩
  obtain ⟨clock, time⟩ : ∃ clock, clock = (t.seconds % 86400).toNat := ⟨_, rfl⟩
  have written := writeCivil civil d clock day time
  obtain ⟨low, high, small⟩ := civil
  have valid : d.Valid := day ▸ Date.ofDaysValid _
  have back : d.toDays = t.seconds / 86400 := day ▸ Date.toDaysOfDays _
  obtain ⟨first, last⟩ := Date.ofDaysFourDigits low high
  rw [← day] at low high
  obtain ⟨year, month, dayOfMonth⟩ := d
  obtain ⟨y, rfl⟩ : ∃ y : Nat, year = y := ⟨year.toNat, by simp only at low; omega⟩
  have early : y ≤ 9999 := by simp only at high; omega
  have months : month < 10 ^ 2 := Nat.lt_of_le_of_lt valid.2.1 (by decide)
  have days : dayOfMonth < 10 ^ 2 := Nat.lt_of_le_of_lt (Nat.le_trans valid.2.2.2 (Date.monthLengthLe _ _)) (by decide)
  have dates := dateRead (paddedPadded (by decide) (by omega)) (paddedPadded (by decide) months)
    (paddedPadded (by decide) days) early valid
  have clocks := clockRead (paddedPadded (by decide) (show clock / 3600 < 10 ^ 2 by omega))
    (paddedPadded (by decide) (show clock / 60 % 60 < 10 ^ 2 by omega))
    (paddedPadded (by decide) (show clock % 60 < 10 ^ 2 by omega)) (by omega) small
  have instant : (⟨86400 * Date.toDays ⟨y, month, dayOfMonth⟩ +
      ((3600 * (clock / 3600) + 60 * (clock / 60 % 60) + clock % 60 : Nat) : Int) - 0, t.nanos⟩ : Timestamp) = t := by
    rw [back]
    obtain ⟨seconds, nanos⟩ := t
    simp only [Timestamp.mk.injEq, and_true] at time ⊢
    omega
  have lowest : Date.toDays ⟨firstYear, 1, 1⟩ ≤ -865565 := by decide
  have highest : 2932957 ≤ Date.toDays ⟨lastYear + 1, 1, 1⟩ := by decide
  rw [read?, written]
  simp only [Int.toNat_natCast, dates, clocks, separator, offset, trimVisible (show isBlank 'Z' = false by decide),
    true_or, or_true, if_true, Option.bind_eq_bind, Option.bind_some, instant]
  exact if_pos ⟨by decide, by decide, by omega, by omega, rfl⟩

end Rfc3339
end HolderGate.Time
