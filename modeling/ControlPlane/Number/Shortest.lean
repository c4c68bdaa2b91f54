import ControlPlane.Number.Binary64
import ControlPlane.Number.Decimal

/-!
# How doubles are written

Between its two neighbours a double owns an interval: the reals that round to
it.  The ends belong to the interval exactly when the mantissa is even.  The
shortest decimal of the double is the point of the coarsest decimal grid that
has a point inside, and of two such points the nearer one.

A layout says how the digits of that decimal are set: for which powers of ten the
number is written positionally, whether a whole number keeps `.0`, and how many
digits an exponent has at least.
-/

namespace ControlPlane.Number

/-! ## The shortest decimal that reads back -/

/-- Decimal digits, and the power of ten of the first one: the digits `d₁ d₂ d₃`
with `power` denote `d₁.d₂d₃ * 10 ^ power`. -/
structure Digits where
  digits : List Nat
  power : Int
deriving Repr, DecidableEq

/-- A positive quotient of natural numbers, the exact value of what is
approximated. -/
structure Ratio where
  num : Nat
  den : Nat

namespace Ratio

/-- `n * base ^ power` as a quotient. -/
def ofPower (n base : Nat) (power : Int) : Ratio :=
  ⟨scaledNum base n power, scaledDen base 1 power⟩

/-- Comparison of quotients. -/
def lt (x y : Ratio) : Bool :=
  x.num * y.den < y.num * x.den

/-- Comparison of quotients, equality allowed. -/
def le (x y : Ratio) : Bool :=
  x.num * y.den ≤ y.num * x.den

/-- The whole part of `x / y`. -/
def floorDiv (x y : Ratio) : Nat :=
  (x.num * y.den) / (x.den * y.num)

/-- The largest power of ten that is not above the quotient. -/
def floorLog10 (x : Ratio) : Int :=
  let guess : Int :=
    ((Nat.toDigits 10 x.num).length : Int) - ((Nat.toDigits 10 x.den).length : Int)
  if (ofPower 1 10 guess).le x then guess else guess - 1

end Ratio

/-- The reals that round to one double. -/
structure Interval where
  low : Ratio
  high : Ratio
  closed : Bool

namespace Interval

/-- The interval of the positive double `mantissa * 2 ^ exponent`.  Below a
power of two the neighbour is only half as far away. -/
def ofDouble (mantissa : Nat) (exponent : Int) : Interval :=
  let below := if mantissa = Binary64.leastNormal ∧ Binary64.minExponent < exponent then 1 else 2
  { low := .ofPower (4 * mantissa - below) 2 (exponent - 2)
    high := .ofPower (4 * mantissa + 2) 2 (exponent - 2)
    closed := mantissa % 2 = 0 }

/-- Does the interval hold a quotient? -/
def contains (i : Interval) (x : Ratio) : Bool :=
  if i.closed then i.low.le x && x.le i.high
  else i.low.lt x && x.lt i.high

end Interval

/-- The nearest of two neighbouring points `k` and `k + 1` of a grid, the even
one at a tie. -/
def nearestPoint (x : Ratio) (k : Nat) (power : Int) : Nat :=
  let middle := Ratio.ofPower (2 * k + 1) 10 power
  let twice : Ratio := ⟨2 * x.num, x.den⟩
  if twice.lt middle then k
  else if middle.lt twice then k + 1
  else k + k % 2

/-- The point of the grid `10 ^ power` inside the interval that is nearest to
`x`, if there is one. -/
def gridPoint? (i : Interval) (x : Ratio) (power : Int) : Option Nat :=
  let k := x.floorDiv (.ofPower 1 10 power)
  let lower := i.contains (.ofPower k 10 power)
  let upper := i.contains (.ofPower (k + 1) 10 power)
  if lower && upper then some (nearestPoint x k power)
  else if lower then some k
  else if upper then some (k + 1)
  else none

/-- A point of a grid as digits, without zeros at the end. -/
def Digits.ofPoint (point : Nat) (power : Int) : Digits :=
  let all := (Nat.toDigits 10 point).map fun c => c.toNat - '0'.toNat
  { digits := (all.reverse.dropWhile (· = 0)).reverse
    power := power + (all.length : Int) - 1 }

/-- The shortest decimal of the positive double `mantissa * 2 ^ exponent`.
Seventeen digits always suffice. -/
def shortest (mantissa : Nat) (exponent : Int) : Digits :=
  let x := Ratio.ofPower mantissa 2 exponent
  let i := Interval.ofDouble mantissa exponent
  let top := x.floorLog10
  let found := (List.range 17).findSome? fun (count : Nat) =>
    (gridPoint? i x (top - count)).map fun point => Digits.ofPoint point (top - count)
  found.getD (.ofPoint (x.floorDiv (.ofPower 1 10 (top - 16))) (top - 16))

/-! ## Layouts -/

/-- How a double is written. -/
structure Layout where
  /-- The powers of ten of the first digit that are written positionally,
  ends included; `none` if all of them are. -/
  positional : Option (Int × Int)
  /-- Does a whole number written positionally end in `.0`? -/
  pointZero : Bool
  /-- The least count of digits of an exponent. -/
  exponentDigits : Nat
deriving Repr

namespace Layout

/-- Is a number whose first digit has this power written positionally? -/
def isPositional (layout : Layout) (power : Int) : Bool :=
  match layout.positional with
  | none => true
  | some (low, high) => low ≤ power && power ≤ high

/-- The numeral without an exponent. -/
def positionalNumeral (layout : Layout) (negative : Bool) (d : Digits) : Numeral :=
  if d.power < 0 then
    { negative, whole := [0], exponent := none
      fraction := some (List.replicate ((-d.power).toNat - 1) 0 ++ d.digits) }
  else
    let count := d.power.toNat + 1
    if d.digits.length ≤ count then
      { negative, exponent := none
        whole := d.digits ++ List.replicate (count - d.digits.length) 0
        fraction := if layout.pointZero then some [0] else none }
    else
      { negative, exponent := none
        whole := d.digits.take count, fraction := some (d.digits.drop count) }

/-- The numeral with one digit before the point and an exponent. -/
def scientificNumeral (layout : Layout) (negative : Bool) (d : Digits) : Numeral :=
  let power := (Nat.toDigits 10 d.power.natAbs).map fun c => c.toNat - '0'.toNat
  { negative
    whole := d.digits.take 1
    fraction := if d.digits.length ≤ 1 then none else some (d.digits.drop 1)
    exponent := some (d.power < 0,
      List.replicate (layout.exponentDigits - power.length) 0 ++ power) }

/-- The numeral of a finite double. -/
def numeral (layout : Layout) (negative : Bool) (mantissa : Nat) (exponent : Int) :
    Numeral :=
  let d := if mantissa = 0 then ⟨[0], 0⟩ else shortest mantissa exponent
  if layout.isPositional d.power then layout.positionalNumeral negative d
  else layout.scientificNumeral negative d

/-- A double as text. -/
def write (layout : Layout) : Binary64 → List Char
  | .nan => ['N', 'a', 'N']
  | .infinite negative => (if negative then ['-'] else []) ++ ['i', 'n', 'f']
  | .finite negative mantissa exponent =>
      (layout.numeral negative mantissa exponent).spell

end Layout

end ControlPlane.Number
