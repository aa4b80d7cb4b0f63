import Mathlib.Tactic.Ring
import HolderGate.Time.Calendar

/-! The calendar: every number of days is the number of a date of the calendar. In a cycle a day lies after whole
centuries, periods of four years and years, all begun in March. -/
namespace HolderGate.Time.Date

/-- Where a day of a cycle of 400 years lies. The last year of a period has a leap day, unless it ends a century that
does not end the cycle. -/
structure Laid (day century period year rest : Int) : Prop where
  sum : day = 36524 * century + 1461 * period + 365 * year + rest
  centuries : 0 ≤ century ∧ century ≤ 3
  periods : 0 ≤ period ∧ period ≤ 24
  years : 0 ≤ year ∧ year ≤ 3
  days : 0 ≤ rest ∧ rest ≤ 365
  leapDay : rest = 365 → year = 3 ∧ (period = 24 → century = 3)

variable {day century period year rest : Int}

theorem dayLaid (low : 0 ≤ day) (high : day < 146097) :
    ∃ century period year rest, Laid day century period year rest := by
  obtain ⟨century, _, _, _, _⟩ : ∃ century, 0 ≤ century ∧ century ≤ 3 ∧ 36524 * century ≤ day ∧
      (day < 36524 * century + 36524 ∨ (century = 3 ∧ day = 146096)) := ⟨min (day / 36524) 3, by omega⟩
  obtain ⟨period, _, _, _, _⟩ : ∃ period, 0 ≤ period ∧ period ≤ 24 ∧ 1461 * period ≤ day - 36524 * century ∧
      day - 36524 * century < 1461 * period + 1461 := ⟨(day - 36524 * century) / 1461, by omega⟩
  obtain ⟨year, _, _, _, _⟩ : ∃ year, 0 ≤ year ∧ year ≤ 3 ∧ 365 * year ≤ day - 36524 * century - 1461 * period ∧
      (day - 36524 * century - 1461 * period < 365 * year + 365 ∨
        (year = 3 ∧ day - 36524 * century - 1461 * period = 1460)) :=
    ⟨min ((day - 36524 * century - 1461 * period) / 365) 3, by omega⟩
  refine ⟨century, period, year, day - 36524 * century - 1461 * period - 365 * year, ?_, ?_, ?_, ?_, ?_, ?_⟩ <;> omega

theorem yearLaid (laid : Laid day century period year rest) :
    (day - day / 1460 + day / 36524 - day / 146096) / 365 = 100 * century + 4 * period + year := by
  obtain ⟨sum, ⟨_, _⟩, ⟨_, _⟩, ⟨_, _⟩, ⟨_, _⟩, leapDay⟩ := laid
  have last : day / 146096 = 0 ∨ (day / 146096 = 1 ∧ day = 146096) := by omega
  have centuries : day / 36524 = century ∨ (day = 146096 ∧ day / 36524 = 4) := by omega
  have periods : day / 1460 = 25 * century + period ∨ day / 1460 = 25 * century + period + 1 := by omega
  rcases last with last | last <;> rcases centuries with centuries | centuries <;>
    rcases periods with periods | periods <;> omega

theorem yearsLaid (laid : Laid day century period year rest) : 0 ≤ 100 * century + 4 * period + year ∧
    100 * century + 4 * period + year < 400 ∧ (100 * century + 4 * period + year) / 4 = 25 * century + period ∧
    (100 * century + 4 * period + year) / 100 = century := by
  obtain ⟨_, ⟨_, _⟩, ⟨_, _⟩, ⟨_, _⟩, _, _⟩ := laid
  refine ⟨?_, ?_, ?_, ?_⟩ <;> omega

def marched (year rest : Int) : Date :=
  let month := (5 * rest + 2) / 153
  let day := rest - (153 * month + 2) / 5 + 1
  if month < 10 then ⟨year, (month + 3).toNat, day.toNat⟩ else ⟨year + 1, (month - 9).toNat, day.toNat⟩

theorem marchedCases (year : Int) (low : 0 ≤ rest) (high : rest ≤ 365) : ∃ month day : Nat,
    153 * month ≤ 5 * rest + 2 ∧ 5 * rest + 2 < 153 * (month + 1) ∧ (day : Int) = rest - (153 * month + 2) / 5 + 1 ∧
      ((month < 10 ∧ marched year rest = ⟨year, month + 3, day⟩) ∨
        (10 ≤ month ∧ month < 12 ∧ marched year rest = ⟨year + 1, month - 9, day⟩)) := by
  obtain ⟨month, named⟩ : ∃ month : Nat, (month : Int) = (5 * rest + 2) / 153 :=
    ⟨((5 * rest + 2) / 153).toNat, by omega⟩
  obtain ⟨day, numbered⟩ : ∃ day : Nat, (day : Int) = rest - (153 * month + 2) / 5 + 1 :=
    ⟨(rest - (153 * month + 2) / 5 + 1).toNat, by omega⟩
  refine ⟨month, day, by omega, by omega, numbered, ?_⟩
  simp only [marched, ← named, ← numbered, Int.toNat_natCast]
  split
  next early => exact .inl ⟨by omega, by rw [show ((month : Int) + 3).toNat = month + 3 by omega]⟩
  next late => exact .inr ⟨by omega, by omega, by rw [show ((month : Int) - 9).toNat = month - 9 by omega]⟩

theorem toDaysMarched (low : 0 ≤ rest) (high : rest ≤ 365) : toDays (marched year rest) =
    146097 * (year / 400) + (365 * (year % 400) + year % 400 / 4 - year % 400 / 100 + rest) - 719468 := by
  obtain ⟨month, day, first, last, numbered, ⟨early, same⟩ | ⟨late, ends, same⟩⟩ := marchedCases year low high
  · have march : ¬ month + 3 ≤ 2 := by omega
    have back : ((month + 3 : Nat) : Int) - 3 = month := by omega
    simp only [same, toDays, march, if_false, back, numbered]
    omega
  · have january : month - 9 ≤ 2 := by omega
    have back : ((month - 9 : Nat) : Int) + 9 = month := by omega
    simp only [same, toDays, january, if_true, back, numbered, Int.add_sub_cancel]
    omega

theorem marchedValid (low : 0 ≤ rest) (high : rest ≤ 365) (leapDay : rest = 365 → isLeap (year + 1) = true) :
    (marched year rest).Valid := by
  obtain ⟨month, day, first, last, numbered, ⟨early, same⟩ | ⟨late, ends, same⟩⟩ := marchedCases year low high
  · rw [same]
    refine ⟨by simp only; omega, by simp only; omega, by simp only; omega, ?_⟩
    simp only [monthLength]
    rw [if_neg (by omega)]
    split <;> omega
  · rw [same]
    refine ⟨by simp only; omega, by simp only; omega, by simp only; omega, ?_⟩
    simp only [monthLength]
    by_cases february : month = 11
    · rw [if_pos (by omega)]
      by_cases last : rest = 365
      · rw [leapDay last, if_pos rfl]
        omega
      · split <;> omega
    · rw [if_neg (by omega), if_neg (by omega)]
      omega

theorem ofDaysMarched (days : Int) : ∃ cycle day century period year rest,
    days + 719468 = 146097 * cycle + day ∧ Laid day century period year rest ∧
      ofDays days = marched (100 * century + 4 * period + year + 400 * cycle) rest := by
  have low : 0 ≤ (days + 719468) % 146097 := Int.emod_nonneg _ (by decide)
  have high : (days + 719468) % 146097 < 146097 := Int.emod_lt_of_pos _ (by decide)
  obtain ⟨century, period, year, rest, laid⟩ := dayLaid low high
  obtain ⟨_, _, fours, hundreds⟩ := yearsLaid laid
  refine ⟨(days + 719468) / 146097, _, century, period, year, rest, (Int.mul_ediv_add_emod _ _).symm, laid, ?_⟩
  have left : (days + 719468) % 146097 -
      (365 * (100 * century + 4 * period + year) + (25 * century + period) - century) = rest := by
    rw [laid.sum]
    ring
  simp only [ofDays, yearLaid laid, fours, hundreds, left, marched]

theorem toDaysOfDays (days : Int) : toDays (ofDays days) = days := by
  obtain ⟨cycle, day, century, period, year, rest, whole, laid, same⟩ := ofDaysMarched days
  obtain ⟨low, high, fours, hundreds⟩ := yearsLaid laid
  have cycles : (100 * century + 4 * period + year + 400 * cycle) / 400 = cycle := by omega
  have left : (100 * century + 4 * period + year + 400 * cycle) % 400 = 100 * century + 4 * period + year := by omega
  rw [same, toDaysMarched laid.days.1 laid.days.2, cycles, left, fours, hundreds]
  have sum := laid.sum
  omega

theorem ofDaysValid (days : Int) : (ofDays days).Valid := by
  obtain ⟨cycle, day, century, period, year, rest, _, laid, same⟩ := ofDaysMarched days
  rw [same]
  refine marchedValid laid.days.1 laid.days.2 fun last => ?_
  obtain ⟨rfl, late⟩ := laid.leapDay last
  obtain ⟨low, high⟩ := laid.periods
  have fours : (100 * century + 4 * period + 3 + 400 * cycle + 1) % 4 = 0 := by omega
  have hundreds : (100 * century + 4 * period + 3 + 400 * cycle + 1) % 100 ≠ 0 ∨
      (100 * century + 4 * period + 3 + 400 * cycle + 1) % 400 = 0 := by
    by_cases full : period = 24
    · exact .inr (by rw [full, late full]; omega)
    · exact .inl (by omega)
  simpa [isLeap, fours] using hundreds

theorem monthLengthLe (year : Int) (month : Nat) : monthLength year month ≤ 31 := by
  unfold monthLength
  split
  · split <;> decide
  · split <;> decide

theorem ofDaysFourDigits {days : Int} (low : 0 ≤ (ofDays days).year) (high : (ofDays days).year ≤ 9999) :
    -865565 ≤ days ∧ days < 2932957 := by
  obtain ⟨cycle, day, century, period, year, rest, whole, laid, same⟩ := ofDaysMarched days
  have marched : (ofDays days).year = 100 * century + 4 * period + year + 400 * cycle ∨
      (ofDays days).year = 100 * century + 4 * period + year + 400 * cycle + 1 := by
    rw [same]
    obtain ⟨_, _, _, _, _, ⟨_, year⟩ | ⟨_, _, year⟩⟩ := marchedCases _ laid.days.1 laid.days.2
    · exact .inl (congrArg Date.year year)
    · exact .inr (congrArg Date.year year)
  obtain ⟨first, last, _, _⟩ := yearsLaid laid
  obtain ⟨sum, ⟨_, _⟩, ⟨_, _⟩, ⟨_, _⟩, ⟨_, _⟩, _⟩ := laid
  have cycles : -1 ≤ cycle ∧ cycle ≤ 24 := by omega
  omega

end HolderGate.Time.Date
