import ControlPlane.Proofs.Text.Positional
import ControlPlane.Text.Basic
import ControlPlane.Time.Instant

/-!
# What the texts of instants mean

The relations say how the parts of an instant are spelled, and what they mean together: a
local date and time are so many seconds ahead of universal time as the zone tells.  A
fraction counts down to nanoseconds, and second sixty is the fifty-ninth with a whole second
more.
-/

namespace ControlPlane.Time.Stamp

/-- Blank characters and nothing else. -/
def Blanks (s : List Char) : Prop :=
  ∀ c ∈ s, Text.isBlank c = true

/-- A number of one or two digits within bounds, after blanks. -/
inductive SpellsNumber (low high : Nat) : List Char → Nat → Prop
  | intro {blanks digits : List Char} {n : Nat} (blank : Blanks blanks)
      (denotes : Text.Denotes 10 digits n) (short : digits.length ≤ 2) (low_le : low ≤ n)
      (le_high : n ≤ high) : SpellsNumber low high (blanks ++ digits) n

theorem SpellsNumber.le_high {low high n : Nat} {s : List Char}
    (spells : SpellsNumber low high s n) : n ≤ high := by
  obtain ⟨-, -, -, -, le_high⟩ := spells
  exact le_high

/-- A mark between two numbers, after blanks. -/
inductive SpellsMark (mark : Char) : List Char → Prop
  | intro {blanks : List Char} (blank : Blanks blanks) : SpellsMark mark (blanks ++ [mark])

/-- A year, after blanks: at most four digits, or any number of digits after a sign. -/
inductive SpellsYear : List Char → Int → Prop
  | plain {blanks digits : List Char} {n : Nat} (blank : Blanks blanks)
      (denotes : Text.Denotes 10 digits n) (short : digits.length ≤ 4) :
      SpellsYear (blanks ++ digits) n
  | plus {blanks digits : List Char} {n : Nat} (blank : Blanks blanks)
      (denotes : Text.Denotes 10 digits n) (small : n < 2147483648) :
      SpellsYear (blanks ++ '+' :: digits) n
  | minus {blanks digits : List Char} {n : Nat} (blank : Blanks blanks)
      (denotes : Text.Denotes 10 digits n) (small : n ≤ 2147483648) :
      SpellsYear (blanks ++ '-' :: digits) (-n)

/-- A date: year, month and day with dashes between them. -/
inductive SpellsDate : List Char → Date → Prop
  | intro {years dash months dash' days : List Char} {year : Int} {month day : Nat}
      (yearText : SpellsYear years year) (isDash : SpellsMark '-' dash)
      (monthText : SpellsNumber 1 12 months month) (isDash' : SpellsMark '-' dash')
      (dayText : SpellsNumber 1 31 days day) :
      SpellsDate (years ++ (dash ++ (months ++ (dash' ++ days)))) ⟨year, month, day⟩

/-- The fraction of a second in nanoseconds: nothing, or any number of digits after a
point. -/
inductive SpellsFraction : List Char → Nat → Prop
  | none : SpellsFraction [] 0
  | point {digits : List Char} {n : Nat} (denotes : Text.Denotes 10 digits n) :
      SpellsFraction ('.' :: digits) (n * 1000000000 / 10 ^ digits.length)

/-- A time of day, as a second of the day and nanoseconds: hour, minute and second with
colons between them, and a fraction. -/
inductive SpellsTime : List Char → Nat × Nat → Prop
  | intro {hours colon minutes colon' seconds fraction : List Char}
      {hour minute second nano : Nat} (hourText : SpellsNumber 0 23 hours hour)
      (isColon : SpellsMark ':' colon) (minuteText : SpellsNumber 0 59 minutes minute)
      (isColon' : SpellsMark ':' colon') (secondText : SpellsNumber 0 60 seconds second)
      (fractionText : SpellsFraction fraction nano) :
      SpellsTime (hours ++ (colon ++ (minutes ++ (colon' ++ (seconds ++ fraction)))))
        (hour * 3600 + minute * 60 + min second 59,
          nano + if second = 60 then 1000000000 else 0)

/-- Two digits of a number up to a bound. -/
structure SpellsTwo (high : Nat) (s : List Char) (n : Nat) : Prop where
  denotes : Text.Denotes 10 s n
  length : s.length = 2
  le_high : n ≤ high

/-- The seconds by which a zone is ahead of universal time: none for the letter `Z` or the
name `UTC`, or hours and minutes after a sign. -/
inductive SpellsOffset : List Char → Int → Prop
  | letter {c : Char} (isZ : c = 'Z' ∨ c = 'z') : SpellsOffset [c] 0
  | name {a b c : Char} (isU : a.toLower = 'u') (isT : b.toLower = 't') (isC : c.toLower = 'c') :
      SpellsOffset [a, b, c] 0
  | east {hours between minutes : List Char} {hour minute : Nat}
      (hourText : SpellsTwo 99 hours hour) (isBetween : ∀ c ∈ between, c = ':' ∨ Text.isBlank c)
      (minuteText : SpellsTwo 59 minutes minute) :
      SpellsOffset ('+' :: (hours ++ (between ++ minutes))) (hour * 3600 + minute * 60)
  | west {sign : Char} {hours between minutes : List Char} {hour minute : Nat}
      (isMinus : sign = '-' ∨ sign = '\u2212') (hourText : SpellsTwo 99 hours hour)
      (isBetween : ∀ c ∈ between, c = ':' ∨ Text.isBlank c)
      (minuteText : SpellsTwo 59 minutes minute) :
      SpellsOffset (sign :: (hours ++ (between ++ minutes))) (-(hour * 3600 + minute * 60))

/-- A zone, after blanks. -/
inductive SpellsZone : List Char → Int → Prop
  | intro {blanks s : List Char} {offset : Int} (blank : Blanks blanks)
      (offsetText : SpellsOffset s offset) : SpellsZone (blanks ++ s) offset

/-- The instant of a local date and time: there is such a day, and universal time has the
seconds of the zone less. -/
structure Means (d : Date) (time : Nat × Nat) (offset : Int) (i : Instant) : Prop where
  valid : d.isValid = true
  firstDay_le : firstDay ≤ d.toDays
  le_lastDay : d.toDays ≤ lastDay
  /-- A zone is less than a day ahead of universal time or behind it. -/
  withinDay : offset.natAbs < 86400
  seconds : i.unixSeconds = d.toDays * 86400 + time.1 - offset
  nano : i.nano = time.2

/-- A text denotes an instant: a date, a letter or a blank, a time and a zone, with blanks
at the end. -/
inductive Denotes : List Char → Instant → Prop
  | intro {date time zone blanks : List Char} {separator : Char} {d : Date} {t : Nat × Nat}
      {offset : Int} {i : Instant} (dateText : SpellsDate date d)
      (isSeparator : separator = 't' ∨ separator = 'T' ∨ separator = ' ')
      (timeText : SpellsTime time t) (zoneText : SpellsZone zone offset) (blank : Blanks blanks)
      (means : Means d t offset i) :
      Denotes (date ++ separator :: (time ++ (zone ++ blanks))) i

end ControlPlane.Time.Stamp
