import ControlPlane.Time.Instant

/-!
# The calendar in both directions

Counted from March, an era of four hundred years consists of four centuries, a century of
twenty-five cycles and a cycle of four years.  Every part has the same number of days,
but the last one may have one day more, the leap day: this is why a day has exactly one
place, and why its place can be found by division.
-/

namespace ControlPlane.Time

/-- The place of a day: era, century, cycle and year, counted from March of the year zero,
and the day of that year. -/
structure Place where
  era : Int
  century : Int
  cycle : Int
  year : Int
  day : Int
  century_nonneg : 0 ≤ century
  century_le : century ≤ 3
  cycle_nonneg : 0 ≤ cycle
  cycle_le : cycle ≤ 24
  year_nonneg : 0 ≤ year
  year_le : year ≤ 3
  day_nonneg : 0 ≤ day
  day_le : day ≤ 365
  /-- Only the last year of a cycle has a leap day, and the last cycle of a century only if
  the century is the last one. -/
  leap : day = 365 → year = 3 ∧ (cycle = 24 → century = 3)

namespace Place

/-- The year within the era. -/
def yearOfEra (p : Place) : Int :=
  100 * p.century + 4 * p.cycle + p.year

/-- The day within the era. -/
def dayOfEra (p : Place) : Int :=
  36524 * p.century + 1461 * p.cycle + 365 * p.year + p.day

/-- The number of days from 1970-01-01. -/
def days (p : Place) : Int :=
  p.era * 146097 + p.dayOfEra - Date.epochOffset

/-- The month, counted from March. -/
def month (p : Place) : Int :=
  (5 * p.day + 2) / 153

/-- The date of the day. -/
def date (p : Place) : Date where
  year := p.yearOfEra + p.era * 400 + if 10 ≤ p.month then 1 else 0
  month := (if p.month < 10 then p.month + 3 else p.month - 9).toNat
  day := (p.day - (153 * p.month + 2) / 5 + 1).toNat

/-- Every day has a place. -/
theorem exists_days_eq (days : Int) : ∃ p : Place, p.days = days := by
  let shifted := days + Date.epochOffset
  obtain ⟨era, ofEra, eraSplit, eraLow, eraHigh⟩ :
      ∃ era rest, shifted = era * 146097 + rest ∧ 0 ≤ rest ∧ rest ≤ 146096 :=
    ⟨shifted / 146097, shifted % 146097, by omega, by omega, by omega⟩
  -- The last century, and the last year of a cycle, have room for one day more.
  obtain ⟨century, ofCentury, centurySplit, centuryBounds, centuryLeap⟩ :
      ∃ century rest, ofEra = 36524 * century + rest ∧
        (0 ≤ century ∧ century ≤ 3 ∧ 0 ≤ rest ∧ rest ≤ 36524) ∧ (rest = 36524 → century = 3) := by
    by_cases last : ofEra = 146096
    · exact ⟨3, 36524, by omega⟩
    · exact ⟨ofEra / 36524, ofEra % 36524, by omega⟩
  obtain ⟨cycle, ofCycle, cycleSplit, cycleBounds⟩ :
      ∃ cycle rest, ofCentury = 1461 * cycle + rest ∧
        (0 ≤ cycle ∧ cycle ≤ 24 ∧ 0 ≤ rest ∧ rest ≤ 1460) :=
    ⟨ofCentury / 1461, ofCentury % 1461, by omega⟩
  obtain ⟨year, day, yearSplit, yearBounds, yearLeap⟩ :
      ∃ year day, ofCycle = 365 * year + day ∧
        (0 ≤ year ∧ year ≤ 3 ∧ 0 ≤ day ∧ day ≤ 365) ∧ (day = 365 → year = 3) := by
    by_cases last : ofCycle = 1460
    · exact ⟨3, 365, by omega⟩
    · exact ⟨ofCycle / 365, ofCycle % 365, by omega⟩
  refine ⟨⟨era, century, cycle, year, day, centuryBounds.1, centuryBounds.2.1, cycleBounds.1,
    cycleBounds.2.1, yearBounds.1, yearBounds.2.1, yearBounds.2.2.1, yearBounds.2.2.2, ?_⟩, ?_⟩
  · intro isLeap
    exact ⟨yearLeap isLeap, by omega⟩
  · simp only [Place.days, dayOfEra]
    omega

section Bounds

variable (p : Place)

theorem dayOfEra_bounds : 0 ≤ p.dayOfEra ∧ p.dayOfEra < 146097 := by
  obtain ⟨_, _, _, _, _, _, _, _, _, _, _, _, _, _⟩ := p
  simp only [dayOfEra]
  omega

theorem yearOfEra_bounds : 0 ≤ p.yearOfEra ∧ p.yearOfEra < 400 := by
  obtain ⟨_, _, _, _, _, _, _, _, _, _, _, _, _, _⟩ := p
  simp only [yearOfEra]
  omega

theorem month_bounds : 0 ≤ p.month ∧ p.month ≤ 11 := by
  have low := p.day_nonneg
  have high := p.day_le
  simp only [month]
  omega

/-- The years of an era before a year have this many days. -/
theorem dayOfEra_eq :
    p.dayOfEra = p.yearOfEra * 365 + p.yearOfEra / 4 - p.yearOfEra / 100 + p.day := by
  obtain ⟨_, _, _, _, _, _, _, _, _, _, _, _, _, _⟩ := p
  simp only [dayOfEra, yearOfEra]
  omega

/-- The year of a day is found by leaving out the leap days before it. -/
theorem yearOfEra_eq :
    (p.dayOfEra - p.dayOfEra / 1460 + p.dayOfEra / 36524 - p.dayOfEra / 146096) / 365 =
      p.yearOfEra := by
  obtain ⟨era, c, q, r, d, _, _, _, _, _, _, _, _, leap⟩ := p
  simp only [dayOfEra, yearOfEra]
  generalize isDay : 36524 * c + 1461 * q + 365 * r + d = e
  -- The quotient by 1460 counts the cycles, or one too many toward the end of a cycle.
  have cycles : (24 * c + q + 365 * r + d < 1460 ∧ e / 1460 = 25 * c + q) ∨
      (1460 ≤ 24 * c + q + 365 * r + d ∧ e / 1460 = 25 * c + q + 1) := by
    omega
  -- The quotient by 36524 counts the centuries, and the leap day of the era as a fifth one.
  have centuries : e / 36524 - e / 146096 = c := by
    have within : e < 36524 * (c + 1) ∨ (c = 3 ∧ e = 146096) := by omega
    clear cycles
    rcases within with inCentury | ⟨rfl, rfl⟩
    · have century : e / 36524 = c := by
        clear leap
        omega
      omega
    · rfl
  generalize e / 36524 = x at *
  generalize e / 146096 = y at *
  generalize e / 1460 = z at *
  omega

end Bounds

/-- The date of a day is found from its number. -/
theorem ofDays_days (p : Place) : Date.ofDays p.days = p.date := by
  have bounds := p.dayOfEra_bounds
  have shifted : p.days + Date.epochOffset = p.era * 146097 + p.dayOfEra := by
    rw [days]
    omega
  have era : (p.era * 146097 + p.dayOfEra) / 146097 = p.era := by omega
  have inEra : p.era * 146097 + p.dayOfEra - p.era * 146097 = p.dayOfEra := by omega
  have inYear : p.dayOfEra - (365 * p.yearOfEra + p.yearOfEra / 4 - p.yearOfEra / 100) = p.day := by
    rw [p.dayOfEra_eq]
    omega
  simp only [Date.ofDays, shifted, era, inEra, p.yearOfEra_eq, inYear]
  rfl

/-- The days of a month come one after another. -/
theorem day_bounds (p : Place) :
    (153 * p.month + 2) / 5 ≤ p.day ∧ p.day < (153 * (p.month + 1) + 2) / 5 := by
  rw [month]
  omega

/-- The number of a day is found from its date. -/
theorem toDays_date (p : Place) : p.date.toDays = p.days := by
  have inEra := p.yearOfEra_bounds
  have ofYear := p.dayOfEra_eq
  have inYear := p.month_bounds
  have inMonth := p.day_bounds
  have era : (p.yearOfEra + p.era * 400) / 400 = p.era := by omega
  have dayOfMonth : ((p.day - (153 * p.month + 2) / 5 + 1).toNat : Int) =
      p.day - (153 * p.month + 2) / 5 + 1 := by
    omega
  -- The first two months of a calendar year end the year that is counted from March.
  by_cases early : p.month < 10
  · have number : ((p.month + 3).toNat : Int) = p.month + 3 := by omega
    have afterFebruary : ¬ (p.month + 3).toNat ≤ 2 := by omega
    simp only [Date.toDays, date, days, if_pos early, if_neg (Int.not_le.mpr early),
      if_neg afterFebruary, dayOfMonth, number, era, Int.add_zero, Int.add_sub_cancel]
    omega
  · have number : ((p.month - 9).toNat : Int) = p.month - 9 := by omega
    have february : (p.month - 9).toNat ≤ 2 := by omega
    simp only [Date.toDays, date, days, if_neg early, if_pos (Int.not_lt.mp early),
      if_pos february, dayOfMonth, number, Int.add_sub_cancel, Int.sub_add_cancel, era]
    omega

/-- A year with a leap day ends in the February of a leap year. -/
theorem isLeapYear_of_leap (p : Place) (leap : p.day = 365) :
    isLeapYear (p.yearOfEra + p.era * 400 + 1) = true := by
  obtain ⟨lastYear, lastCycle⟩ := p.leap leap
  have low := p.cycle_nonneg
  have high := p.cycle_le
  rw [isLeapYear, yearOfEra, lastYear, Bool.and_eq_true, Bool.or_eq_true, decide_eq_true_iff,
    decide_eq_true_iff, decide_eq_true_iff]
  constructor
  · omega
  · by_cases isLast : p.cycle = 24
    · right
      rw [lastCycle isLast, isLast]
      omega
    · left
      omega

/-- The date of a day exists. -/
theorem isValid_date (p : Place) : p.date.isValid = true := by
  have inYear := p.month_bounds
  have inMonth := p.day_bounds
  have last := p.day_le
  have month : 1 ≤ p.date.month ∧ p.date.month ≤ 12 := by
    simp only [date]
    split <;> omega
  have day : 1 ≤ p.date.day := by
    simp only [date]
    omega
  have within : p.date.day ≤ daysInMonth p.date.year p.date.month := by
    by_cases february : p.month = 11
    · by_cases leap : p.day = 365
      · simp [date, february, leap, daysInMonth, p.isLeapYear_of_leap leap]
      · have isFebruary : p.date.month = 2 := by simp [date, february]
        have short : p.date.day ≤ 28 := by
          simp only [date, february]
          omega
        have atLeast : 28 ≤ daysInMonth p.date.year 2 := by
          rw [daysInMonth, if_pos rfl]
          split <;> decide
        rw [isFebruary]
        exact Nat.le_trans short atLeast
    · have others : p.month = 0 ∨ p.month = 1 ∨ p.month = 2 ∨ p.month = 3 ∨ p.month = 4 ∨
          p.month = 5 ∨ p.month = 6 ∨ p.month = 7 ∨ p.month = 8 ∨ p.month = 9 ∨ p.month = 10 := by
        omega
      rcases others with m | m | m | m | m | m | m | m | m | m | m <;>
        · rw [m] at inMonth
          simp [date, m, daysInMonth]
          omega
  simp only [Date.isValid, month, day, within, decide_true, Bool.and_self]

end Place

namespace Date

/-- The number of a day is found from its date. -/
theorem toDays_ofDays (days : Int) : (ofDays days).toDays = days := by
  obtain ⟨p, rfl⟩ := Place.exists_days_eq days
  rw [p.ofDays_days, p.toDays_date]

theorem isValid_ofDays (days : Int) : (ofDays days).isValid = true := by
  obtain ⟨p, rfl⟩ := Place.exists_days_eq days
  rw [p.ofDays_days]
  exact p.isValid_date

/-- The years of instants have at most six digits. -/
theorem year_ofDays_bounds {days : Int} (low : firstDay ≤ days) (high : days ≤ lastDay) :
    -262400 ≤ (ofDays days).year ∧ (ofDays days).year ≤ 262400 := by
  obtain ⟨p, rfl⟩ := Place.exists_days_eq days
  have inEra := p.dayOfEra_bounds
  have ofEra := p.yearOfEra_bounds
  rw [p.ofDays_days]
  simp only [firstDay, lastDay, Place.days, epochOffset] at low high
  simp only [Place.date]
  split <;> omega

end Date

end ControlPlane.Time
