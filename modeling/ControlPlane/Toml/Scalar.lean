import ControlPlane.Number.Decimal
import ControlPlane.Text.Basic
import ControlPlane.Toml.Moment
import ControlPlane.Toml.Value

/-!
# The values of words

A word that stands for a value is a truth value, an integer, a float or a
moment.  Digits may be divided by single underscores.  Integers have 64 bits, a
float that overflows is no value, and a moment counts as its text.
-/

namespace ControlPlane.Toml

open ControlPlane.Number (Binary64 Numeral)

/-- The digits of a nonempty run, with single underscores between them. -/
def digitRun? (digit? : Char → Option Nat) (s : List Char) : Option (List Nat) :=
  let runs := Text.cut '_' s
  if runs.any List.isEmpty then none
  else (runs.mapM fun run => List.mapM digit? run).map List.flatten

/-- A run of digits that does not begin with a zero, unless it is zero. -/
def isPlain : List Nat → Bool
  | 0 :: _ :: _ => false
  | _ => true

/-- The value of an octal digit. -/
def octalDigit? (c : Char) : Option Nat :=
  (Text.decimalDigit? c).filter (· < 8)

/-- The value of a binary digit. -/
def binaryDigit? (c : Char) : Option Nat :=
  (Text.decimalDigit? c).filter (· < 2)

/-- The integer that a word denotes: decimal with or without a sign, or of
another base after its mark. -/
def integer? (w : List Char) : Option Int :=
  let ofBase (digit? : Char → Option Nat) (base : Nat) (s : List Char) : Option Int :=
    (digitRun? digit? s).map fun digits => (Text.ofDigits base digits : Int)
  match w with
  | '0' :: 'x' :: s => ofBase Text.hexDigit? 16 s
  | '0' :: 'o' :: s => ofBase octalDigit? 8 s
  | '0' :: 'b' :: s => ofBase binaryDigit? 2 s
  | w => do
      let (negative, s) := Text.signed w
      let digits ← digitRun? Text.decimalDigit? s
      let value : Int := Text.ofDigits 10 digits
      if isPlain digits then return if negative then -value else value else none

/-- The float that a numeral denotes, which has a point or an exponent. -/
def numeralFloat? (w : List Char) : Option Binary64 := do
  let n ← Numeral.ofText? (digitRun? Text.decimalDigit?) w
  if isPlain n.whole ∧ (n.fraction.isSome ∨ n.exponent.isSome) then
    match Binary64.ofNumeral n with
    | .infinite _ => none
    | x => return x
  else none

/-- The float that a word denotes. -/
def float? (w : List Char) : Option Binary64 :=
  let (negative, s) := Text.signed w
  if s = "inf".toList then some (.infinite negative)
  else if s = "nan".toList then some .nan
  else numeralFloat? w

/-- The value that a word denotes. -/
def Value.ofWord? (w : List Char) : Option Value :=
  if w = "true".toList then some (.bool true)
  else if w = "false".toList then some (.bool false)
  else
    match integer? w with
    | some i => if Text.isInteger64 i then some (.integer i) else none
    | none =>
        match float? w with
        | some x => some (.float x)
        | none => (Moment.ofText? w).map fun m => .text (String.ofList m.text)

end ControlPlane.Toml
