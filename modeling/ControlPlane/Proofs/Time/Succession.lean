import ControlPlane.Proofs.Time.Calendar

/-!
# One day after another

The number of a date counts the days: the first day of 1970 has the number zero, and every
date is followed by the date with the next number.  So dates and numbers determine one
another.
-/

namespace ControlPlane.Time

namespace Date

/-- The date of the day after: the next day of the month, else the first day of the next
month, else the first day of the next year. -/
def next (d : Date) : Date :=
  if d.day < daysInMonth d.year d.month then ⟨d.year, d.month, d.day + 1⟩
  else if d.month < 12 then ⟨d.year, d.month + 1, 1⟩
  else ⟨d.year + 1, 1, 1⟩

theorem isValid_mk_iff {year : Int} {month day : Nat} :
    (Date.mk year month day).isValid = true ↔
      (1 ≤ month ∧ month ≤ 12) ∧ 1 ≤ day ∧ day ≤ daysInMonth year month := by
  simp only [isValid, Bool.and_eq_true, decide_eq_true_eq, and_assoc]

theorem isLeapYear_iff {year : Int} :
    isLeapYear year = true ↔ year % 4 = 0 ∧ (year % 100 ≠ 0 ∨ year % 400 = 0) := by
  simp [isLeapYear]

theorem one_le_daysInMonth (year : Int) (month : Nat) : 1 ≤ daysInMonth year month := by
  rw [daysInMonth]
  repeat' split
  all_goals decide

/-- After a day comes a day. -/
theorem isValid_next {d : Date} (valid : d.isValid = true) : d.next.isValid = true := by
  obtain ⟨year, month, day⟩ := d
  obtain ⟨months, days, within⟩ := isValid_mk_iff.mp valid
  rw [next]
  split
  · next inMonth => exact isValid_mk_iff.mpr ⟨months, by omega, inMonth⟩
  split
  · next early =>
      exact isValid_mk_iff.mpr ⟨⟨by omega, early⟩, by omega, one_le_daysInMonth _ _⟩
  · exact isValid_mk_iff.mpr ⟨by omega, by omega, one_le_daysInMonth _ _⟩

/-- The first of March has the number after that of the last day of February. -/
theorem toDays_march (year : Int) :
    (Date.mk year 3 1).toDays = (Date.mk year 2 (daysInMonth year 2)).toDays + 1 := by
  rw [daysInMonth, if_pos rfl]
  by_cases leap : isLeapYear year = true
  · obtain ⟨fourth, century⟩ := isLeapYear_iff.mp leap
    simp only [if_pos leap, toDays, Nat.reduceLeDiff, if_true, if_false]
    omega
  · have common := mt isLeapYear_iff.mpr leap
    simp only [if_neg leap, toDays, Nat.reduceLeDiff, if_true, if_false]
    omega

/-- A day has the number after that of the day before. -/
theorem toDays_next {d : Date} (valid : d.isValid = true) : d.next.toDays = d.toDays + 1 := by
  obtain ⟨year, month, day⟩ := d
  obtain ⟨months, days, within⟩ := isValid_mk_iff.mp valid
  rw [next]
  split
  · simp only [toDays]
    omega
  next last =>
    obtain rfl : day = daysInMonth year month := Nat.le_antisymm within (Nat.le_of_not_lt last)
    by_cases february : month = 2
    · rw [february]
      exact toDays_march year
    have others : month = 1 ∨ month = 3 ∨ month = 4 ∨ month = 5 ∨ month = 6 ∨ month = 7 ∨
        month = 8 ∨ month = 9 ∨ month = 10 ∨ month = 11 ∨ month = 12 := by
      omega
    rcases others with rfl | rfl | rfl | rfl | rfl | rfl | rfl | rfl | rfl | rfl | rfl <;>
      · simp only [daysInMonth, toDays, Nat.reduceEqDiff, Nat.reduceLT, Nat.reduceLeDiff,
          Nat.reduceAdd, or_false, or_true, if_true, if_false]
        omega

end Date

/-- A date and the same date counted from March: the year that the March is in, and the
number of months since. -/
inductive Date.FromMarch : Date → Int → Int → Prop
  | early {year : Int} {month day : Nat} (first : 1 ≤ month) (last : month ≤ 2) :
      FromMarch ⟨year, month, day⟩ (year - 1) (month + 9)
  | late {year : Int} {month day : Nat} (first : 3 ≤ month) (last : month ≤ 12) :
      FromMarch ⟨year, month, day⟩ year (month - 3)

namespace Date.FromMarch

variable {d : Date} {year month : Int}

theorem exists_of_isValid (valid : d.isValid = true) :
    ∃ year month, FromMarch d year month := by
  obtain ⟨calendarYear, calendarMonth, day⟩ := d
  obtain ⟨⟨first, last⟩, -⟩ := isValid_mk_iff.mp valid
  by_cases early : calendarMonth ≤ 2
  · exact ⟨_, _, .early first early⟩
  · exact ⟨_, _, .late (Nat.lt_of_not_le early) last⟩

/-- A day of the year that is counted from March lies in its month, and it is the leap day
only if the year ends in a leap year. -/
theorem day_bounds (fromMarch : FromMarch d year month) (valid : d.isValid = true) :
    (0 ≤ month ∧ month ≤ 11) ∧ 1 ≤ d.day ∧
      (153 * month + 2) / 5 + d.day ≤ (153 * (month + 1) + 2) / 5 ∧
      (153 * month + 2) / 5 + d.day ≤ 366 ∧
      ((153 * month + 2) / 5 + d.day = 366 → isLeapYear (year + 1) = true) := by
  cases fromMarch with
  | @early calendarYear calendarMonth day first last =>
      obtain ⟨-, positive, within⟩ := isValid_mk_iff.mp valid
      have months : calendarMonth = 1 ∨ calendarMonth = 2 := by omega
      rw [Int.sub_add_cancel]
      rcases months with rfl | rfl
      · simp only [daysInMonth, Nat.reduceEqDiff, or_false, if_false] at within
        simp only
        omega
      · rw [daysInMonth, if_pos rfl] at within
        by_cases leap : isLeapYear calendarYear = true
        · rw [if_pos leap] at within
          simp only [leap, implies_true, and_true]
          omega
        · rw [if_neg leap] at within
          simp only
          omega
  | @late calendarYear calendarMonth day first last =>
      obtain ⟨-, positive, within⟩ := isValid_mk_iff.mp valid
      have months : calendarMonth = 3 ∨ calendarMonth = 4 ∨ calendarMonth = 5 ∨
          calendarMonth = 6 ∨ calendarMonth = 7 ∨ calendarMonth = 8 ∨ calendarMonth = 9 ∨
          calendarMonth = 10 ∨ calendarMonth = 11 ∨ calendarMonth = 12 := by
        omega
      rcases months with rfl | rfl | rfl | rfl | rfl | rfl | rfl | rfl | rfl | rfl <;>
        · simp only [daysInMonth, Nat.reduceEqDiff, or_false, or_true, if_true, if_false] at within
          simp only
          omega

end Date.FromMarch

/-- The place of a date, counted from March. -/
theorem Place.exists_date_eq {d : Date} (valid : d.isValid = true) : ∃ p : Place, p.date = d := by
  obtain ⟨year, month, fromMarch⟩ := Date.FromMarch.exists_of_isValid valid
  obtain ⟨months, positive, inMonth, inYear, leap⟩ := fromMarch.day_bounds valid
  have leapDay : (153 * month + 2) / 5 + d.day - 1 = 365 →
      year % 4 = 3 ∧ (year % 400 % 100 / 4 = 24 → year % 400 / 100 = 3) := by
    intro last
    have isLeap := Date.isLeapYear_iff.mp (leap (by omega))
    omega
  let p : Place :=
    ⟨year / 400, year % 400 / 100, year % 400 % 100 / 4, year % 4,
      (153 * month + 2) / 5 + d.day - 1, by omega, by omega, by omega, by omega, by omega,
      by omega, by omega, by omega, leapDay⟩
  have monthEq : p.month = month := by
    simp only [Place.month, p]
    omega
  have yearEq : p.yearOfEra + p.era * 400 = year := by
    simp only [Place.yearOfEra, p]
    omega
  refine ⟨p, ?_⟩
  rw [Place.date, monthEq, yearEq]
  cases fromMarch with
  | early first last =>
      rw [if_pos (by omega), if_neg (by omega), Date.mk.injEq]
      simp only [p]
      omega
  | late first last =>
      rw [if_neg (by omega), if_pos (by omega), Date.mk.injEq]
      simp only [p]
      omega

namespace Date

/-- The date of a number is found from the number of the date. -/
theorem ofDays_toDays {d : Date} (valid : d.isValid = true) : ofDays d.toDays = d := by
  obtain ⟨p, rfl⟩ := Place.exists_date_eq valid
  rw [p.toDays_date, p.ofDays_days]

/-- The day after has the next number. -/
theorem ofDays_add_one (days : Int) : ofDays (days + 1) = (ofDays days).next := by
  have valid := isValid_ofDays days
  have number := toDays_next valid
  rw [toDays_ofDays] at number
  rw [← number, ofDays_toDays (isValid_next valid)]

end Date

end ControlPlane.Time
