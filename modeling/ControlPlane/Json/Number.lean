import ControlPlane.Number.Decimal

/-!
# The numbers that JSON numerals denote

A numeral without point and exponent is an integer if it lies between `-2 ^ 63`
and `2 ^ 64 - 1` and is not `-0`.  Every other numeral is a double, computed
from the leading digits that fit into 64 bits and a power of ten; a double that
overflows is no number at all.  The power of ten is applied to the rounded
leading digits, so the double is not always the nearest one.
-/

namespace ControlPlane.Json

open ControlPlane.Number (Binary64 Numeral)

/-- A number that was read. -/
inductive Number
  | natural (n : Nat)
  /-- The integer `-n`, where `n` is positive. -/
  | negative (n : Nat)
  | real (x : Binary64)
deriving Repr, DecidableEq

namespace Number

/-- Leading digits as a natural number below `2 ^ 64`, and how many digits
were taken. -/
structure Leading where
  value : Nat
  taken : Nat
deriving Repr, DecidableEq

/-- Takes digits as long as the value stays below `2 ^ 64`. -/
def Leading.take : Leading → List Nat → Leading
  | l, [] => l
  | l, d :: rest =>
      if l.value * 10 + d < UInt64.size then take ⟨l.value * 10 + d, l.taken + 1⟩ rest else l

/-- The largest exponent that is read digit by digit. -/
def exponentLimit : Nat := 2147483647

/-- The greatest power of ten that is applied in one step. -/
def powerStep : Nat := 308

/-- A power of ten, rounded to a double. -/
def powerOfTen (n : Nat) : Binary64 :=
  .ofNat (Nat.pow 10 n)

/-- Divides by `10 ^ 308` at most `count` times, but not below zero. -/
def shrink : Nat → Binary64 → Binary64
  | 0, x => x
  | count + 1, x =>
      if x.isZero then x else shrink count (x.div (powerOfTen powerStep))

/-- `value * 10 ^ power`, unless it overflows. -/
def scale? (value : Nat) (power : Int) : Option Binary64 :=
  let x := Binary64.ofNat value
  if x.isZero then some x
  else if 0 ≤ power then
    if powerStep < power.toNat then none
    else
      match x.mul (powerOfTen power.toNat) with
      | .finite s m e => some (.finite s m e)
      | .nan | .infinite _ => none
  else
    let size := power.natAbs
    let steps := (size - 1) / powerStep
    some ((shrink steps x).div (powerOfTen (size - steps * powerStep)))

/-- The double of a numeral, without the sign. -/
def magnitude? (n : Numeral) : Option Binary64 :=
  let whole := Leading.take ⟨0, 0⟩ n.whole
  let fraction := n.fraction.getD []
  let all := Leading.take ⟨whole.value, 0⟩ fraction
  let power : Int := ((n.whole.length - whole.taken : Nat) : Int) - (all.taken : Int)
  match n.exponent with
  | none => scale? all.value power
  | some (below, digits) =>
      let exponent := digits.foldl (fun value digit => value * 10 + digit) 0
      if exponentLimit < exponent then
        if all.value ≠ 0 ∧ !below then none else some (.zero false)
      else scale? all.value (if below then power - exponent else power + exponent)

/-- The double of a numeral. -/
def real? (n : Numeral) : Option Number :=
  (magnitude? n).map fun x => .real (if n.negative then x.neg else x)

/-- The number that a numeral denotes, unless it overflows a double. -/
def ofNumeral? (n : Numeral) : Option Number :=
  if n.fraction = none ∧ n.exponent = none then
    let value := n.whole.foldl (fun value digit => value * 10 + digit) 0
    if !n.negative ∧ value < UInt64.size then some (.natural value)
    else if n.negative ∧ value ≠ 0 ∧ value ≤ 9223372036854775808 then some (.negative value)
    else real? n
  else real? n

end Number

end ControlPlane.Json
