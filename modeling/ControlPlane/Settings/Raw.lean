import ControlPlane.Number.Shortest
import ControlPlane.Text.Basic

/-!
# Raw values of settings

A raw value is what a source holds under the name of a setting.  What the
setting is decides how the raw value is taken: as a text, a natural number or a
truth value.  The conversions are generous, but none accepts a composite value.
-/

namespace ControlPlane

open ControlPlane.Number (Binary64 Layout)

/-- What a source holds under a name. -/
inductive Raw
  | bool (value : Bool)
  | integer (value : Int)
  | float (value : Binary64)
  | text (content : String)
  /-- A list or a table. -/
  | composite
deriving Repr, DecidableEq

namespace Raw

/-! ## Texts -/

/-- Floats are written without exponents, and whole ones without a point. -/
def floatLayout : Layout where
  positional := none
  pointZero := false
  exponentDigits := 1

/-- A raw value as a text. -/
def text? : Raw → Option String
  | bool true => some "true"
  | bool false => some "false"
  | integer i => some (Text.integerText i)
  | float x => some (String.ofList (floatLayout.write x))
  | text s => some s
  | composite => none

/-! ## Truth values -/

/-- The words for true. -/
def trueWords : List String :=
  ["true", "on", "yes"]

/-- The words for false. -/
def falseWords : List String :=
  ["false", "off", "no"]

/-- A text with small letters for capital ones. -/
def inSmallLetters (s : String) : String :=
  String.ofList (s.toList.map Char.toLower)

/-- A raw value as a truth value.  Every number but zero is true. -/
def bool? : Raw → Option Bool
  | bool b => some b
  | integer i => some (i ≠ 0)
  | float x => some (!x.isZero)
  | text s =>
      let word := inSmallLetters s
      if ("1" :: trueWords).contains word then some true
      else if ("0" :: falseWords).contains word then some false
      else none
  | composite => none

/-! ## Natural numbers -/

/-- The greatest natural number of a setting. -/
def greatest : Nat := UInt64.size - 1

/-- The natural number below `2 ^ 64` that is nearest to a double, a half
counting as a whole.  Not-a-number counts as zero. -/
def nearest : Binary64 → Nat
  | .nan => 0
  | .infinite negative => if negative then 0 else greatest
  | .finite negative mantissa exponent =>
      let num := Number.scaledNum 2 mantissa exponent
      let den := Number.scaledDen 2 1 exponent
      if negative then 0 else min greatest ((2 * num + den) / (2 * den))

/-- A natural number in decimal, after a plus sign if there is one. -/
def decimal? (s : List Char) : Option Nat :=
  match s with
  | '+' :: digits => Text.decimalValue? digits
  | digits => Text.decimalValue? digits

/-- A natural number, if it is small enough. -/
def natural64? (n : Nat) : Option UInt64 :=
  if n ≤ greatest then some (.ofNat n) else none

/-- A raw value as a natural number. -/
def natural? : Raw → Option UInt64
  | bool b => some (if b then 1 else 0)
  | integer i => if i < 0 then none else natural64? i.toNat
  | float x => natural64? (nearest x)
  | text s =>
      let word := inSmallLetters s
      if trueWords.contains word then some 1
      else if falseWords.contains word then some 0
      else (decimal? s.toList).bind natural64?
  | composite => none

end Raw

end ControlPlane
