/-!
# Days and instants

Days of the proleptic Gregorian calendar are counted from 1970-01-01.  Years are
counted from March, so that the leap day is the last day of its year; four
hundred years always have 146097 days.

An instant is a day, a second of that day and a number of nanoseconds.  A leap
second is the last second of some minute, lasting for a second time: it is
written with nanoseconds from `10 ^ 9` on.  Days are limited to the years from
-262143 to 262142.
-/

namespace ControlPlane.Time

/-! ## The calendar -/

/-- A calendar date. -/
structure Date where
  year : Int
  month : Nat
  day : Nat
deriving Repr, DecidableEq

/-- Has the year a 29th of February? -/
def isLeapYear (year : Int) : Bool :=
  year % 4 = 0 && (year % 100 ≠ 0 || year % 400 = 0)

/-- The number of days of a month. -/
def daysInMonth (year : Int) (month : Nat) : Nat :=
  if month = 2 then
    if isLeapYear year then 29 else 28
  else if month = 4 ∨ month = 6 ∨ month = 9 ∨ month = 11 then 30
  else 31

namespace Date

/-- Is there such a day? -/
def isValid (d : Date) : Bool :=
  1 ≤ d.month && d.month ≤ 12 && 1 ≤ d.day && d.day ≤ daysInMonth d.year d.month

/-- The days from 0000-03-01 to 1970-01-01. -/
def epochOffset : Int := 719468

/-- The number of days from 1970-01-01 to a date. -/
def toDays (d : Date) : Int :=
  let year := if d.month ≤ 2 then d.year - 1 else d.year
  let era := year / 400
  let yearOfEra := year - era * 400
  let month : Int := if d.month ≤ 2 then d.month + 9 else d.month - 3
  let dayOfYear := (153 * month + 2) / 5 + d.day - 1
  let dayOfEra := yearOfEra * 365 + yearOfEra / 4 - yearOfEra / 100 + dayOfYear
  era * 146097 + dayOfEra - epochOffset

/-- The date a number of days after 1970-01-01. -/
def ofDays (days : Int) : Date :=
  let shifted := days + epochOffset
  let era := shifted / 146097
  let dayOfEra := shifted - era * 146097
  let yearOfEra :=
    (dayOfEra - dayOfEra / 1460 + dayOfEra / 36524 - dayOfEra / 146096) / 365
  let dayOfYear := dayOfEra - (365 * yearOfEra + yearOfEra / 4 - yearOfEra / 100)
  let month := (5 * dayOfYear + 2) / 153
  let day := dayOfYear - (153 * month + 2) / 5 + 1
  { year := yearOfEra + era * 400 + if 10 ≤ month then 1 else 0
    month := (if month < 10 then month + 3 else month - 9).toNat
    day := day.toNat }

end Date

/-! ## Instants -/

/-- The first day, -262143-01-01. -/
def firstDay : Int := -96465292

/-- The last day, 262142-12-31. -/
def lastDay : Int := 95026236

theorem firstDay_eq : firstDay = (Date.mk (-262143) 1 1).toDays := by decide

theorem lastDay_eq : lastDay = (Date.mk 262142 12 31).toDays := by decide

/-- A point in time, universal time. -/
@[ext]
structure Instant where
  /-- Days since 1970-01-01. -/
  day : Int
  second : Nat
  nano : Nat
  firstDay_le : firstDay ≤ day
  le_lastDay : day ≤ lastDay
  second_lt : second < 86400
  nano_lt : nano < 2000000000
  /-- A leap second ends a minute. -/
  leap : 1000000000 ≤ nano → second % 60 = 59
deriving DecidableEq

namespace Instant

/-- Builds an instant if its parts are within bounds. -/
def of? (day : Int) (second nano : Nat) : Option Instant :=
  if h : firstDay ≤ day ∧ day ≤ lastDay ∧ second < 86400 ∧ nano < 2000000000 ∧
      (1000000000 ≤ nano → second % 60 = 59) then
    some ⟨day, second, nano, h.1, h.2.1, h.2.2.1, h.2.2.2.1, h.2.2.2.2⟩
  else none

/-- The instant a whole number of seconds after the epoch. -/
def ofUnixSeconds? (seconds : Int) : Option Instant :=
  of? (seconds / 86400) (seconds % 86400).toNat 0

/-- The instant a number of nanoseconds after the epoch. -/
def ofUnixNanos? (nanos : Int) : Option Instant :=
  of? (nanos / 86400000000000) (nanos / 1000000000 % 86400).toNat (nanos % 1000000000).toNat

/-- The first second of 1970. -/
def epoch : Instant :=
  ⟨0, 0, 0, by decide, by decide, by decide, by decide, by decide⟩

/-- The whole seconds since the epoch, a leap second counting as the one it
repeats. -/
def unixSeconds (i : Instant) : Int :=
  i.day * 86400 + i.second

/-- The nanoseconds since the epoch.  In a leap second they run ahead into the
second after it. -/
def unixNanos (i : Instant) : Int :=
  i.unixSeconds * 1000000000 + i.nano

/-- The seconds that have passed in full since an earlier instant, none since a
later one. -/
def fullSecondsSince (i start : Instant) : Nat :=
  ((i.unixNanos - start.unixNanos) / 1000000000).toNat

end Instant

end ControlPlane.Time
