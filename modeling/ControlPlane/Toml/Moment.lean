import ControlPlane.Text.Basic
import ControlPlane.Time.Instant

/-!
# Dates and times of TOML

A moment is a date, a time of day, or both, and then perhaps an offset from
universal time.  Unlike an instant it may be local.  Seconds may be left out;
digits of a fraction after the ninth do not count.
-/

namespace ControlPlane.Toml

open ControlPlane.Time (Date)

/-- A time of day. -/
structure Clock where
  hour : Nat
  minute : Nat
  second : Option Nat
  nano : Option Nat
deriving Repr, DecidableEq

/-- An offset from universal time. -/
inductive Offset
  | universal
  /-- West of universal time, or east? -/
  | custom (west : Bool) (hours minutes : Nat)
deriving Repr, DecidableEq

/-- A date, a time of day, or both. -/
structure Moment where
  date : Option Date
  clock : Option Clock
  offset : Option Offset
deriving Repr, DecidableEq

/-! ## Reading -/

/-- A number of two digits at the front of a text, and the rest. -/
def pair? : List Char → Option (Nat × List Char)
  | a :: b :: rest => do
      let tens ← Text.decimalDigit? a
      let ones ← Text.decimalDigit? b
      return (tens * 10 + ones, rest)
  | _ => none

/-- The date at the front of a text, and the rest. -/
def date? (s : List Char) : Option (Date × List Char) := do
  let (century, s) ← pair? s
  let (year, s) ← pair? s
  match s with
  | '-' :: s => do
      let (month, s) ← pair? s
      match s with
      | '-' :: s => do
          let (day, s) ← pair? s
          let d : Date := ⟨century * 100 + year, month, day⟩
          if d.isValid then return (d, s) else none
      | _ => none
  | _ => none

/-- The fraction of a second at the front of a text in nanoseconds, if there is
a point, and the rest. -/
def nano? : List Char → Option (Option Nat × List Char)
  | '.' :: s =>
      let digits := s.takeWhile Text.isDecimal
      let nano := Text.decimalValue? ((digits ++ List.replicate 9 '0').take 9)
      if digits.isEmpty then none else some (nano, s.dropWhile Text.isDecimal)
  | s => some (none, s)

/-- The time of day at the front of a text, and the rest. -/
def clock? (s : List Char) : Option (Clock × List Char) := do
  let (hour, s) ← pair? s
  match s with
  | ':' :: s => do
      let (minute, s) ← pair? s
      let (second, nano, s) ← match s with
        | ':' :: s => do
            let (second, s) ← pair? s
            let (nano, s) ← nano? s
            pure (some second, nano, s)
        | s => pure (none, none, s)
      if hour ≤ 23 ∧ minute ≤ 59 ∧ second.getD 0 ≤ 60 then
        return (⟨hour, minute, second, nano⟩, s)
      else none
  | _ => none

/-- An offset of at most a day, which is all that is left of a text. -/
def customOffset? (west : Bool) (s : List Char) : Option (Option Offset) := do
  let (hours, s) ← pair? s
  match s with
  | ':' :: s => do
      let (minutes, s) ← pair? s
      if s.isEmpty ∧ minutes ≤ 59 ∧ hours * 60 + minutes ≤ 1440 then
        return some (.custom west hours minutes)
      else none
  | _ => none

/-- The offset that is all that is left of a text, if anything is left. -/
def offset? : List Char → Option (Option Offset)
  | [] => some none
  | ['Z'] | ['z'] => some (some .universal)
  | '+' :: s => customOffset? false s
  | '-' :: s => customOffset? true s
  | _ => none

/-- A date with what may follow it. -/
def dated? (s : List Char) : Option Moment := do
  let (d, s) ← date? s
  match s with
  | [] => return ⟨some d, none, none⟩
  | c :: s => do
      if c = 'T' ∨ c = 't' ∨ c = ' ' then
        let (clock, s) ← clock? s
        let offset ← offset? s
        return ⟨some d, some clock, offset⟩
      else none

/-- A time of day and nothing else. -/
def timed? (s : List Char) : Option Moment := do
  let (clock, s) ← clock? s
  if s.isEmpty then return ⟨none, some clock, none⟩ else none

/-- The moment that a text denotes. -/
def Moment.ofText? (s : List Char) : Option Moment :=
  (dated? s).or (timed? s)

/-! ## Writing -/

/-- The digits of a fraction, without the zeros at its end; one is kept. -/
def fractionDigits (nano : Nat) : List Char :=
  let digits := ((Text.padded 9 nano).reverse.dropWhile (· = '0')).reverse
  if digits.isEmpty then ['0'] else digits

/-- The text of a time of day. -/
def Clock.text (c : Clock) : List Char :=
  Text.padded 2 c.hour ++ ':' :: Text.padded 2 c.minute ++
    (match c.second with
      | some second => ':' :: Text.padded 2 second
      | none => []) ++
    (match c.nano with
      | some nano => '.' :: fractionDigits nano
      | none => [])

/-- The text of an offset.  No offset is west by nothing. -/
def Offset.text : Offset → List Char
  | universal => ['Z']
  | custom west hours minutes =>
      (if west ∧ ¬(hours = 0 ∧ minutes = 0) then '-' else '+') ::
        Text.padded 2 hours ++ ':' :: Text.padded 2 minutes

/-- The text of a date. -/
def dateDigits (d : Date) : List Char :=
  Text.padded 4 d.year.toNat ++ '-' :: Text.padded 2 d.month ++ '-' :: Text.padded 2 d.day

/-- The text of a moment, with the letter `T` between date and time. -/
def Moment.text (m : Moment) : List Char :=
  (match m.date with
    | some d => dateDigits d
    | none => []) ++
  (if m.date.isSome ∧ m.clock.isSome then ['T'] else []) ++
  (match m.clock with
    | some c => c.text
    | none => []) ++
  (match m.offset with
    | some o => o.text
    | none => [])

end ControlPlane.Toml
