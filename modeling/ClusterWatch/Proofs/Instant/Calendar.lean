import ClusterWatch.Instant.Calendar
import Mathlib.Tactic.IntervalCases

namespace ClusterWatch.Date

/-- A day of the 400 years after which the calendar repeats: its century, the cycle of four years in that, the year in
the cycle and the day in the year. A year has a 366th day at the end of a cycle; the last cycle of a century has none,
unless the century is the last one. -/
structure EraDay where
  century : Int
  cycle : Int
  year : Int
  day : Int
  centuries : 0 ≤ century ∧ century ≤ 3
  cycles : 0 ≤ cycle ∧ cycle ≤ 24
  years : 0 ≤ year ∧ year ≤ 3
  days : 0 ≤ day ∧ (day ≤ 364 ∨ (day = 365 ∧ year = 3 ∧ (cycle ≤ 23 ∨ century = 3)))

namespace EraDay

def number (d : EraDay) : Int :=
  36524 * d.century + 1461 * d.cycle + 365 * d.year + d.day

def yearOfEra (d : EraDay) : Int :=
  100 * d.century + 4 * d.cycle + d.year

theorem exists_number {n : Int} (low : 0 ≤ n) (high : n ≤ 146096) : ∃ d : EraDay, d.number = n := by
  let century := min (n / 36524) 3
  let inCentury := n - 36524 * century
  let cycle := inCentury / 1461
  let inCycle := inCentury % 1461
  let year := min (inCycle / 365) 3
  refine ⟨⟨century, cycle, year, inCycle - 365 * year, ?_, ?_, ?_, ?_⟩, ?_⟩
  case refine_5 =>
    simp only [number]
    omega
  all_goals omega

theorem number_range (d : EraDay) : 0 ≤ d.number ∧ d.number ≤ 146096 := by
  obtain ⟨century, cycle, year, day, ⟨_, _⟩, ⟨_, _⟩, ⟨_, _⟩, ⟨_, last⟩⟩ := d
  simp only [number]
  omega

theorem yearOfEra_range (d : EraDay) : 0 ≤ d.yearOfEra ∧ d.yearOfEra ≤ 399 := by
  obtain ⟨century, cycle, year, day, ⟨_, _⟩, ⟨_, _⟩, ⟨_, _⟩, _⟩ := d
  simp only [yearOfEra]
  omega

theorem year_of_number (d : EraDay) :
    (d.number - d.number / 1460 + d.number / 36524 - d.number / 146096) / 365 = d.yearOfEra := by
  obtain ⟨century, cycle, year, day, ⟨_, _⟩, ⟨_, _⟩, ⟨_, _⟩, ⟨_, last⟩⟩ := d
  simp only [number, yearOfEra]
  generalize whole : 36524 * century + 1461 * cycle + 365 * year + day = n
  have below : n ≤ 36524 * century + 36523 ∨ (n = 146096 ∧ century = 3) := by omega
  have ofCenturies : n / 36524 - n / 146096 = century := by omega
  -- A division by 1460 is ahead by one at the end of a cycle, so that a last day does not count.
  have ofCycles : (n / 1460 = 25 * century + cycle ∧ day ≤ 364) ∨
      (n / 1460 = 25 * century + cycle + 1 ∧ 1 ≤ day) := by omega
  omega

theorem day_of_number (d : EraDay) :
    d.number - (365 * d.yearOfEra + d.yearOfEra / 4 - d.yearOfEra / 100) = d.day := by
  obtain ⟨century, cycle, year, day, ⟨_, _⟩, ⟨_, _⟩, ⟨_, _⟩, ⟨_, last⟩⟩ := d
  simp only [number, yearOfEra]
  omega

end EraDay

theorem isLeapYear_iff {year : Int} : isLeapYear year ↔ year % 4 = 0 ∧ (year % 100 ≠ 0 ∨ year % 400 = 0) := by
  simp [isLeapYear]

theorem daysInMonth_le (year : Int) (month : Nat) : daysInMonth year month ≤ 31 := by
  rw [daysInMonth]
  split
  · split <;> decide
  · split <;> decide

theorem le_of_isValid {d : Date} (valid : d.isValid) : d.month ≤ 12 ∧ d.day ≤ 31 := by
  have most := daysInMonth_le d.year d.month
  simp [isValid] at valid
  omega

def ofYearDay (year day : Int) : Date :=
  let month := (5 * day + 2) / 153
  let dayOfMonth := day - (153 * month + 2) / 5 + 1
  let month := if month < 10 then month + 3 else month - 9
  { year := if month ≤ 2 then year + 1 else year, month := month.toNat, day := dayOfMonth.toNat }

section YearDay

variable {year day : Int}

-- From March on, months of 31 and 30 days alternate in groups of five, which have 153 days.
theorem exists_month (low : 0 ≤ day) (high : day ≤ 365) (year : Int) : ∃ month dayOfMonth : Nat,
    month ≤ 11 ∧ 1 ≤ dayOfMonth ∧ (5 * day + 2) / 153 = month ∧ day + 1 = (153 * month + 2) / 5 + dayOfMonth ∧
      ofYearDay year day =
        if month < 10 then ⟨year, month + 3, dayOfMonth⟩ else ⟨year + 1, month - 9, dayOfMonth⟩ := by
  obtain ⟨month, months⟩ := Int.eq_ofNat_of_zero_le (show 0 ≤ (5 * day + 2) / 153 by omega)
  have positive : (day - (153 * month + 2) / 5 + 1).toNat = day - (153 * month + 2) / 5 + 1 := by omega
  refine ⟨month, (day - (153 * month + 2) / 5 + 1).toNat, by omega, by omega, months, by omega, ?_⟩
  simp only [ofYearDay, months]
  by_cases sameYear : month < 10
  · have before : (month : Int) < 10 := by omega
    have after : ¬ (month : Int) + 3 ≤ 2 := by omega
    rw [if_pos sameYear, if_pos before, if_neg after]
    congr 1
  · have before : ¬ (month : Int) < 10 := by omega
    have after : (month : Int) - 9 ≤ 2 := by omega
    rw [if_neg sameYear, if_neg before, if_pos after]
    congr 1
    omega

theorem toDays_ofYearDay (low : 0 ≤ day) (high : day ≤ 365) : (ofYearDay year day).toDays =
    year / 400 * 146097 + (365 * (year % 400) + year % 400 / 4 - year % 400 / 100 + day) - 719468 := by
  obtain ⟨month, dayOfMonth, small, -, -, whole, same⟩ := exists_month low high year
  rw [same]
  by_cases sameYear : month < 10
  · have later : ¬ month + 3 ≤ 2 := by omega
    simp only [if_pos sameYear, toDays, if_neg later]
    omega
  · have early : month - 9 ≤ 2 := by omega
    simp only [if_neg sameYear, toDays, if_pos early]
    omega

theorem isValid_ofYearDay (low : 0 ≤ day) (high : day ≤ 364 ∨ (day = 365 ∧ isLeapYear (year + 1))) :
    (ofYearDay year day).isValid := by
  obtain ⟨month, dayOfMonth, small, some, months, whole, same⟩ := exists_month low (by omega) year
  rw [same]
  interval_cases month
  -- Only February depends on the year, and there the day is the last one.
  case «11» =>
    rcases high with usual | ⟨last, leap⟩
    · simp [isValid, daysInMonth]
      split <;> omega
    · simp [isValid, daysInMonth, leap]
      omega
  all_goals
    simp [isValid, daysInMonth]
    omega

theorem year_ofYearDay (low : 0 ≤ day) (high : day ≤ 365) (year : Int) :
    year ≤ (ofYearDay year day).year ∧ (ofYearDay year day).year ≤ year + 1 := by
  obtain ⟨month, dayOfMonth, -, -, -, -, same⟩ := exists_month low high year
  rw [same]
  split
  · exact ⟨Int.le_refl year, Int.le_add_one (Int.le_refl year)⟩
  · exact ⟨Int.le_add_one (Int.le_refl year), Int.le_refl (year + 1)⟩

end YearDay

theorem exists_era (days : Int) : ∃ (era : Int) (d : EraDay), days = era * 146097 + d.number - 719468 := by
  obtain ⟨d, same⟩ := EraDay.exists_number (n := (days + 719468) % 146097) (by omega) (by omega)
  exact ⟨(days + 719468) / 146097, d, by omega⟩

theorem ofDays_number (era : Int) (d : EraDay) :
    ofDays (era * 146097 + d.number - 719468) = ofYearDay (d.yearOfEra + era * 400) d.day := by
  have range := d.number_range
  have whole : era * 146097 + d.number - 719468 + 719468 = d.number + era * 146097 := by omega
  have quotient : (d.number + era * 146097) / 146097 = era := by omega
  have rest : (d.number + era * 146097) % 146097 = d.number := by omega
  simp only [ofDays, whole, quotient, rest, d.year_of_number, d.day_of_number]
  rfl

theorem toDays_ofDays (days : Int) : (ofDays days).toDays = days := by
  obtain ⟨era, d, rfl⟩ := exists_era days
  have range := d.yearOfEra_range
  have day := d.day_of_number
  have days := d.days
  have ofEra : (d.yearOfEra + era * 400) / 400 = era := by omega
  have inEra : (d.yearOfEra + era * 400) % 400 = d.yearOfEra := by omega
  rw [ofDays_number, toDays_ofYearDay days.1 (by omega), ofEra, inEra]
  omega

theorem isValid_ofDays (days : Int) : (ofDays days).isValid := by
  obtain ⟨era, d, rfl⟩ := exists_era days
  rw [ofDays_number]
  obtain ⟨century, cycle, year, day, ⟨_, _⟩, ⟨_, _⟩, ⟨_, _⟩, ⟨low, last⟩⟩ := d
  apply isValid_ofYearDay low
  apply last.imp_right
  rintro ⟨rfl, rfl, place⟩
  refine ⟨rfl, isLeapYear_iff.2 ?_⟩
  simp only [EraDay.yearOfEra]
  omega

theorem year_ofDays {days : Int} (low : -719468 ≤ days) (high : days < 24 * 146097 - 719468) :
    0 ≤ (ofDays days).year ∧ (ofDays days).year ≤ 9999 := by
  obtain ⟨era, d, rfl⟩ := exists_era days
  have range := d.number_range
  have years := d.yearOfEra_range
  have days := d.days
  have near := year_ofYearDay days.1 (by omega) (d.yearOfEra + era * 400)
  rw [ofDays_number]
  omega

end ClusterWatch.Date
