/-!
# Double precision numbers

A finite number is a mantissa times a power of two, with a sign that also zero
has.  Every operation computes its result exactly, as a quotient of natural
numbers, and rounds it once: to the nearest double, and to the one with the
even mantissa when two are equally near.
-/

namespace ControlPlane.Number

/-- A double precision number.  `finite negative m e` is `m * 2 ^ e` with the
given sign. -/
inductive Binary64
  | nan
  | infinite (negative : Bool)
  | finite (negative : Bool) (mantissa : Nat) (exponent : Int)
deriving Repr, DecidableEq

/-- A quotient rounded to the nearest integer, a half to the even one. -/
def roundQuotient (num den : Nat) : Nat :=
  let quotient := num / den
  let twice := 2 * (num % den)
  if twice < den then quotient
  else if den < twice then quotient + 1
  else quotient + quotient % 2

/-- The numerator of `num / den * base ^ power`. -/
def scaledNum (base num : Nat) (power : Int) : Nat :=
  num * Nat.pow base power.toNat

/-- The denominator of `num / den * base ^ power`. -/
def scaledDen (base den : Nat) (power : Int) : Nat :=
  den * Nat.pow base (-power).toNat

namespace Binary64

/-- The least mantissa of a number that is not close to zero, `2 ^ 52`.  All
mantissas are less than twice as large. -/
def leastNormal : Nat := 4503599627370496

/-- The exponent of the numbers closest to zero. -/
def minExponent : Int := -1074

/-- The exponent of the numbers farthest from zero. -/
def maxExponent : Int := 971

/-- Zero, of either sign. -/
def zero (negative : Bool) : Binary64 :=
  .finite negative 0 minExponent

/-- The largest power of two that is not above `num / den`. -/
def floorLog2 (num den : Nat) : Int :=
  let guess : Int := (num.log2 : Int) - (den.log2 : Int)
  if scaledNum 2 den guess ≤ scaledDen 2 num guess then guess else guess - 1

/-- The double nearest to `num / den`. -/
def ofRatio (negative : Bool) (num den : Nat) : Binary64 :=
  if num = 0 then zero negative
  else
    let exponent := max (floorLog2 num den - 52) minExponent
    let mantissa := roundQuotient (scaledDen 2 num exponent) (scaledNum 2 den exponent)
    let carried := mantissa = 2 * leastNormal
    let exponent := if carried then exponent + 1 else exponent
    let mantissa := if carried then leastNormal else mantissa
    if maxExponent < exponent then .infinite negative
    else .finite negative mantissa exponent

/-- The double nearest to `num / den * 2 ^ exponent`. -/
def ofScaled (negative : Bool) (num den : Nat) (exponent : Int) : Binary64 :=
  ofRatio negative (scaledNum 2 num exponent) (scaledDen 2 den exponent)

/-- The double nearest to a natural number. -/
def ofNat (n : Nat) : Binary64 :=
  ofRatio false n 1

/-- The double nearest to `digits * 10 ^ exponent`.  Exponents so large or so
small that the result is infinite or zero are recognised by the count of
digits alone. -/
def ofDecimal (negative : Bool) (digits : Nat) (exponent : Int) : Binary64 :=
  let top : Int := exponent + (Nat.toDigits 10 digits).length
  if digits = 0 ∨ top < -330 then zero negative
  else if 330 < top then .infinite negative
  else ofRatio negative (scaledNum 10 digits exponent) (scaledDen 10 1 exponent)

/-- The same number with the other sign. -/
def neg : Binary64 → Binary64
  | .nan => .nan
  | .infinite negative => .infinite (!negative)
  | .finite negative m e => .finite (!negative) m e

/-- Is the number zero, of either sign? -/
def isZero : Binary64 → Bool
  | .finite _ m _ => m == 0
  | _ => false

/-- Multiplication. -/
def mul : Binary64 → Binary64 → Binary64
  | .finite s m e, .finite t n f => ofScaled (s != t) (m * n) 1 (e + f)
  | .infinite s, .infinite t => .infinite (s != t)
  | .infinite s, .finite t n _ => if n = 0 then .nan else .infinite (s != t)
  | .finite s m _, .infinite t => if m = 0 then .nan else .infinite (s != t)
  | _, _ => .nan

/-- Division. -/
def div : Binary64 → Binary64 → Binary64
  | .finite s m e, .finite t n f =>
      if n = 0 then
        if m = 0 then .nan else .infinite (s != t)
      else ofScaled (s != t) m n (e - f)
  | .infinite s, .finite t _ _ => .infinite (s != t)
  | .finite s _ _, .infinite t => zero (s != t)
  | _, _ => .nan

end Binary64

end ControlPlane.Number
