import ControlPlane.Number.Binary64
import ControlPlane.Text.Basic

/-!
# Decimal numerals

A numeral is a number as it is written: a sign, the digits before the point,
the digits after it, and an exponent.  Different numerals may denote the same
number, and a numeral need not be the closest description of any double.

`Numeral.ofText?` takes a text apart at the point and at the exponent mark; how
runs of digits look is left to the caller.  `Binary64.ofNumeral` is the double
nearest to a numeral.  `Binary64.ofText?` joins the two with the most generous
digits: either side of the point may be empty, and infinities and not-a-number
have names.
-/

namespace ControlPlane.Number

/-! ## Numerals and how they are spelled -/

/-- A written number, taken apart. -/
structure Numeral where
  negative : Bool
  /-- The digits before the point. -/
  whole : List Nat
  /-- The digits after the point, if there is a point. -/
  fraction : Option (List Nat)
  /-- The exponent's sign (is it negative?) and digits, if there is one. -/
  exponent : Option (Bool × List Nat)
deriving Repr, DecidableEq

namespace Numeral

/-- The numeral of a natural number. -/
def ofNat (n : Nat) : Numeral :=
  { negative := false
    whole := (Nat.toDigits 10 n).map fun c => c.toNat - '0'.toNat
    fraction := none
    exponent := none }

/-- The digits between the sign and the exponent. -/
def spellPoint : Option (List Nat) → List Char
  | none => []
  | some digits => '.' :: digits.map Nat.digitChar

/-- The exponent, always with its sign. -/
def spellExponent : Option (Bool × List Nat) → List Char
  | none => []
  | some (negative, digits) =>
      'e' :: (if negative then '-' else '+') :: digits.map Nat.digitChar

/-- The characters of a numeral. -/
def spell (n : Numeral) : List Char :=
  (if n.negative then ['-'] else []) ++ n.whole.map Nat.digitChar ++
    spellPoint n.fraction ++ spellExponent n.exponent

end Numeral

/-! ## Numerals from texts -/

/-- The letter before an exponent. -/
def isExponentMark (c : Char) : Bool :=
  c = 'e' || c = 'E'

namespace Numeral

/-- The numeral with the given text, whose runs of digits are read by
`digits?`. -/
def ofText? (digits? : List Char → Option (List Nat)) (s : List Char) : Option Numeral := do
  let (negative, s) := Text.signed s
  let mantissa := s.takeWhile fun c => !isExponentMark c
  let whole ← digits? (mantissa.takeWhile (· ≠ '.'))
  let fraction ← match mantissa.dropWhile (· ≠ '.') with
    | [] => some none
    | _ :: rest => (digits? rest).map some
  let exponent ← match s.dropWhile fun c => !isExponentMark c with
    | [] => some none
    | _ :: rest => (digits? (Text.signed rest).2).map fun d => some ((Text.signed rest).1, d)
  return { negative, whole, fraction, exponent }

/-- All digits of a numeral that stand before its exponent. -/
def digits (n : Numeral) : List Nat :=
  n.whole ++ n.fraction.getD []

/-- The power of ten that the last digit counts. -/
def lastPower (n : Numeral) : Int :=
  let exponent : Int := match n.exponent with
    | none => 0
    | some (true, digits) => -(Text.ofDigits 10 digits : Int)
    | some (false, digits) => Text.ofDigits 10 digits
  exponent - (n.fraction.getD []).length

end Numeral

/-! ## Doubles from texts -/

namespace Binary64

/-- The double nearest to a numeral. -/
def ofNumeral (n : Numeral) : Binary64 :=
  ofDecimal n.negative (Text.ofDigits 10 n.digits) n.lastPower

/-- An infinity or not-a-number, by its name. -/
def ofName? (negative : Bool) (name : List Char) : Option Binary64 :=
  let name := name.map Char.toLower
  if name = "inf".toList ∨ name = "infinity".toList then some (.infinite negative)
  else if name = "nan".toList then some .nan
  else none

/-- The double that a text denotes, if it is a name or a numeral.  A numeral
has at least one digit, and at least one in its exponent if it has one. -/
def ofText? (s : List Char) : Option Binary64 :=
  match ofName? (Text.signed s).1 (Text.signed s).2 with
  | some x => some x
  | none =>
      match Numeral.ofText? (·.mapM Text.decimalDigit?) s with
      | some n =>
          let exponentDue := match n.exponent with
            | some (_, digits) => digits.isEmpty
            | none => false
          if n.digits.isEmpty || exponentDue then none else some (ofNumeral n)
      | none => none

end Binary64

end ControlPlane.Number
