import ControlPlane.Text.Basic
import ControlPlane.Time.Instant

/-!
# Written instants

An instant is written as a date, the letter `T`, a time of day and a zone.
Years from 0 to 9999 have four digits; others have a sign and at least four.
A fraction of a second has three, six or nine digits, as few as express it, or
is left out.  A leap second is the sixtieth of its minute.

The reader takes more than the writer gives: blanks before every number and
around the marks between them, a blank or a small letter between date and time,
numbers of one digit, any number of digits of a fraction (those after the ninth
are dropped), and offsets from universal time in hours and minutes.  A number is
checked against its bounds as soon as it is read; whether there is such a day is
asked at the end.
-/

namespace ControlPlane.Time

/-! ## Writing -/

/-- How universal time is marked. -/
inductive Zone
  | letter
  | offset
deriving Repr, DecidableEq

namespace Zone

/-- The text of the mark. -/
def text : Zone → List Char
  | letter => ['Z']
  | offset => ['+', '0', '0', ':', '0', '0']

end Zone

/-- The year of a date. -/
def yearText (year : Int) : List Char :=
  if 0 ≤ year ∧ year ≤ 9999 then Text.padded 4 year.toNat
  else (if year < 0 then '-' else '+') :: Text.padded 4 year.natAbs

/-- A date. -/
def dateText (d : Date) : List Char :=
  yearText d.year ++ '-' :: Text.padded 2 d.month ++ '-' :: Text.padded 2 d.day

/-- The fraction of a second, given in nanoseconds. -/
def fractionText (nano : Nat) : List Char :=
  if nano = 0 then []
  else if nano % 1000000 = 0 then '.' :: Text.padded 3 (nano / 1000000)
  else if nano % 1000 = 0 then '.' :: Text.padded 6 (nano / 1000)
  else '.' :: Text.padded 9 nano

/-- A time of day. -/
def timeText (second nano : Nat) : List Char :=
  let leap := nano / 1000000000
  Text.padded 2 (second / 3600) ++ ':' :: Text.padded 2 (second / 60 % 60) ++
    ':' :: Text.padded 2 (second % 60 + leap) ++ fractionText (nano % 1000000000)

/-- The text of an instant. -/
def Instant.stamp (zone : Zone) (i : Instant) : List Char :=
  dateText (.ofDays i.day) ++ 'T' :: timeText i.second i.nano ++ zone.text

/-- The text of an instant, universal time being marked with `Z`. -/
def Instant.text (i : Instant) : String :=
  String.ofList (i.stamp .letter)

/-- The text of an instant, universal time being marked as an offset. -/
def Instant.offsetText (i : Instant) : String :=
  String.ofList (i.stamp .offset)

/-! ## Reading -/

/-- Why a text is no instant. -/
inductive StampFault
  | invalid
  | early
  | outOfRange
  | trailing
  | impossible
deriving Repr, DecidableEq

/-- The wording of a fault. -/
def StampFault.message : StampFault → String
  | invalid => "input contains invalid characters"
  | early => "premature end of input"
  | outOfRange => "input is out of range"
  | trailing => "trailing input"
  | impossible => "no possible date and time matching input"

namespace StampReader

/-- The largest number that is read. -/
def numberLimit : Nat := 9223372036854775807

/-- The digits at the front of a text as a number. -/
def digits (front rest : List Char) : Except StampFault (Nat × List Char) :=
  let value := Text.ofDigits 10 (front.filterMap Text.decimalDigit?)
  if numberLimit < value then .error .outOfRange else .ok (value, rest)

/-- A number of at least one digit, and at most `width` digits if a width is
given. -/
def number (width : Option Nat) (s : List Char) : Except StampFault (Nat × List Char) :=
  match s with
  | [] => .error .early
  | c :: _ =>
      if !Text.isDecimal c then .error .invalid
      else
        let within := match width with
          | none => s
          | some w => s.take w
        let front := within.takeWhile Text.isDecimal
        digits front (s.drop front.length)

/-- A number within bounds, after blanks. -/
def bounded (low high : Nat) (s : List Char) : Except StampFault (Nat × List Char) := do
  let (value, rest) ← number (some 2) (Text.trimLeft s)
  if low ≤ value ∧ value ≤ high then return (value, rest) else .error .outOfRange

/-- A mark between two numbers, after blanks. -/
def mark (c : Char) (s : List Char) : Except StampFault (List Char) :=
  match Text.trimLeft s with
  | [] => .error .early
  | first :: rest => if first = c then .ok rest else .error .invalid

/-- A year: up to four digits, or a sign and any number of digits. -/
def year (s : List Char) : Except StampFault (Int × List Char) := do
  let (value, rest) ← match Text.trimLeft s with
    | '-' :: rest => (number none rest).map fun (n, rest) => (-(n : Int), rest)
    | '+' :: rest => (number none rest).map fun (n, rest) => ((n : Int), rest)
    | s => (number (some 4) s).map fun (n, rest) => ((n : Int), rest)
  if -2147483648 ≤ value ∧ value < 2147483648 then return (value, rest)
  else .error .outOfRange

/-- A date. -/
def date (s : List Char) : Except StampFault (Date × List Char) := do
  let (year, s) ← year s
  let s ← mark '-' s
  let (month, s) ← bounded 1 12 s
  let s ← mark '-' s
  let (day, s) ← bounded 1 31 s
  return (⟨year, month, day⟩, s)

/-- The letter or blank between date and time. -/
def separator : List Char → Except StampFault (List Char)
  | [] => .error .early
  | c :: rest => if c = 't' ∨ c = 'T' ∨ c = ' ' then .ok rest else .error .invalid

/-- The fraction of a second in nanoseconds, if there is a point. -/
def fraction : List Char → Except StampFault (Nat × List Char)
  | '.' :: s => do
      let (value, rest) ← number (some 9) s
      let taken := s.length - rest.length
      return (value * Nat.pow 10 (9 - taken), rest.dropWhile Text.isDecimal)
  | s => .ok (0, s)

/-- A time of day, as a second of the day and nanoseconds.  Second sixty is the
fifty-ninth with a whole second more. -/
def time (s : List Char) : Except StampFault ((Nat × Nat) × List Char) := do
  let (hour, s) ← bounded 0 23 s
  let s ← mark ':' s
  let (minute, s) ← bounded 0 59 s
  let s ← mark ':' s
  let (second, s) ← bounded 0 60 s
  let (nano, s) ← fraction s
  let leap := if second = 60 then 1 else 0
  return ((hour * 3600 + minute * 60 + (second - leap), nano + leap * 1000000000), s)

/-- Two digits, as a number.  A single character that takes one octet is too
little. -/
def twoDigits (tensLimit : Nat) : List Char → Except StampFault (Nat × List Char)
  | [] => .error .early
  | [c] => if c.toNat < 0x80 then .error .early else .error .invalid
  | a :: b :: rest =>
      match Text.decimalDigit? a, Text.decimalDigit? b with
      | some tens, some ones =>
          if tens ≤ tensLimit then .ok (tens * 10 + ones, rest) else .error .outOfRange
      | _, _ => .error .invalid

/-- The sign of an offset: is it west of universal time? -/
def offsetSign : List Char → Except StampFault (Bool × List Char)
  | [] => .error .early
  | c :: rest =>
      if c = '+' then .ok (false, rest)
      else if c = '-' ∨ c = '\u2212' then .ok (true, rest)
      else .error .invalid

/-- Is the text `UTC`, in letters of any case, followed by something? -/
def universal? : List Char → Option (List Char)
  | a :: b :: c :: rest =>
      if a.toLower = 'u' ∧ b.toLower = 't' ∧ c.toLower = 'c' then some rest else none
  | _ => none

/-- A zone, as the seconds by which it is ahead of universal time. -/
def zone (s : List Char) : Except StampFault (Int × List Char) := do
  let s := Text.trimLeft s
  match universal? s with
  | some rest => return (0, rest)
  | none =>
      match s with
      | 'Z' :: rest => return (0, rest)
      | 'z' :: rest => return (0, rest)
      | s => do
          let (west, s) ← offsetSign s
          let (hours, s) ← twoDigits 9 s
          let s := s.dropWhile fun c => c = ':' || Text.isBlank c
          let (minutes, s) ← twoDigits 5 s
          let seconds : Int := hours * 3600 + minutes * 60
          return (if west then -seconds else seconds, s)

/-- The instant of a local date and time. -/
def assemble (d : Date) (second nano : Nat) (offset : Int) : Except StampFault Instant :=
  let inBounds := d.isValid && firstDay ≤ d.toDays && d.toDays ≤ lastDay
  if !inBounds ∨ 86400 ≤ offset.natAbs then .error .outOfRange
  else
    let shifted := (second : Int) - offset
    match Instant.of? (d.toDays + shifted / 86400) (shifted % 86400).toNat nano with
    | some instant => .ok instant
    | none => .error .impossible

/-- Reads a written instant. -/
def read (s : List Char) : Except StampFault Instant := do
  let (d, s) ← date s
  let s ← separator s
  let ((second, nano), s) ← time s
  let (offset, s) ← zone s
  if (Text.trimLeft s).isEmpty then assemble d second nano offset
  else .error .trailing

end StampReader

/-- The instant that a text denotes. -/
def Instant.ofText (s : String) : Except StampFault Instant :=
  StampReader.read s.toList

end ControlPlane.Time
