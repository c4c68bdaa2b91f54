import ControlPlane.Json.Token
import ControlPlane.Number.Shortest

/-!
# JSON values and their text

A value is written as the spelling of its tokens, without blanks.  The members
of an object keep the order in which they are given.
-/

namespace ControlPlane.Json

open ControlPlane.Number (Binary64 Layout Numeral)

/-- A JSON value. -/
inductive Value
  | null
  | bool (value : Bool)
  | number (numeral : Numeral)
  | text (content : String)
  | array (items : List Value)
  | object (members : List (String × Value))
deriving Repr

/-- Doubles in JSON texts and in the messages about them: positional if the
first digit's power of ten is between -5 and 15, a whole number with `.0`, and
otherwise an exponent of at least two digits. -/
def numberLayout : Layout :=
  { positional := some (-5, 15), pointZero := true, exponentDigits := 2 }

namespace Value

/-- A natural number as a value. -/
def natural (n : Nat) : Value :=
  .number (.ofNat n)

/-- A double as a value.  JSON has no form for what is not finite. -/
def real : Binary64 → Value
  | .finite negative mantissa exponent =>
      .number (numberLayout.numeral negative mantissa exponent)
  | .nan | .infinite _ => .null

mutual

/-- The tokens of a value. -/
def tokens : Value → List Token
  | null => [.null]
  | bool b => [.bool b]
  | number n => [.number n]
  | text s => [.text (some s)]
  | array [] => [.openBracket, .closeBracket]
  | array (item :: rest) => .openBracket :: (item.tokens ++ itemTokens rest)
  | object [] => [.openBrace, .closeBrace]
  | object ((key, value) :: rest) =>
      .openBrace :: .text (some key) :: .colon :: (value.tokens ++ memberTokens rest)

/-- The tokens of the items after the first one, to the closing bracket. -/
def itemTokens : List Value → List Token
  | [] => [.closeBracket]
  | item :: rest => .comma :: (item.tokens ++ itemTokens rest)

/-- The tokens of the members after the first one, to the closing brace. -/
def memberTokens : List (String × Value) → List Token
  | [] => [.closeBrace]
  | (key, value) :: rest =>
      .comma :: .text (some key) :: .colon :: (value.tokens ++ memberTokens rest)

end

/-- The text of a value. -/
def render (v : Value) : String :=
  String.ofList (v.tokens.flatMap Token.spell)

end Value

end ControlPlane.Json
