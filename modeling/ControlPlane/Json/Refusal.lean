import ControlPlane.Json.Draft
import ControlPlane.Json.Number
import ControlPlane.Json.Value
import ControlPlane.Text.Quoted

/-!
# Why a text is refused

A text is either malformed, or it is JSON as far as it was read and does not
fit what was asked for.  Misfits are causes; `Misfit.message` is their wording.
-/

namespace ControlPlane.Json

open ControlPlane.Number (Binary64)

/-- What a value is, as far as messages tell. -/
inductive Kind
  | null
  | bool (value : Bool)
  | integer (value : Int)
  | real (value : Binary64)
  | text (content : String)
  | sequence
  | map
deriving Repr, DecidableEq

/-- A word between grave accents. -/
def named (s : String) : String :=
  "`" ++ s ++ "`"

/-- The wording of a kind. -/
def Kind.describe : Kind → String
  | null => "null"
  | bool b => "boolean " ++ named (if b then "true" else "false")
  | integer i => "integer " ++ named (Text.integerText i)
  | real x => "floating point " ++ named (String.ofList (numberLayout.write x))
  | text s => "string " ++ Text.quote s
  | sequence => "sequence"
  | map => "map"

/-- Why a JSON value does not fit. -/
inductive Misfit
  /-- A field is not there. -/
  | missing (field : String)
  /-- A field is there for the second time. -/
  | duplicate (field : String)
  /-- A name is none of the known ones. -/
  | variant (found : String) (known : List String)
  /-- The value is of another kind than the expected one. -/
  | kind (found : Kind) (expected : String)
  /-- An integer is too large or too small. -/
  | range (found : Int) (expected : String)
  /-- A sequence has the wrong length. -/
  | length (found : Nat) (expected : String)
  /-- A text is not written as it should be. -/
  | wording (problem : String)
deriving Repr, DecidableEq

/-- The names that were possible. -/
def alternatives : List String → String
  | [] => "there are no variants"
  | [name] => "expected " ++ named name
  | [first, second] => "expected " ++ named first ++ " or " ++ named second
  | names => "expected one of " ++ String.intercalate ", " (names.map named)

/-- The wording of a misfit. -/
def Misfit.message : Misfit → String
  | missing field => "missing field " ++ named field
  | duplicate field => "duplicate field " ++ named field
  | variant found known => "unknown variant " ++ named found ++ ", " ++ alternatives known
  | kind found expected => "invalid type: " ++ found.describe ++ ", expected " ++ expected
  | range found expected =>
      "invalid value: " ++ (Kind.integer found).describe ++ ", expected " ++ expected
  | length found expected =>
      "invalid length " ++ Text.decimalText found ++ ", expected " ++ expected
  | wording problem => problem

/-- Why a text is refused. -/
inductive Refusal
  /-- The text is not JSON, or has what no reader takes. -/
  | malformed
  | misfit (cause : Misfit)
deriving Repr, DecidableEq

/-- The kind of a number, if it is one. -/
def Number.kind : Number → Kind
  | natural n => .integer n
  | negative n => .integer (-n)
  | real x => .real x

/-- The kind of a draft.  A container is recognised by its first character;
faults, lone surrogates and overflowing numbers are of no kind. -/
def Draft.kind? : Draft → Option Kind
  | fault => none
  | null => some .null
  | bool b => some (.bool b)
  | number n => (Number.ofNumeral? n).map Number.kind
  | text s => s.map .text
  | array _ _ => some .sequence
  | object _ _ => some .map

/-- The draft that begins with a token, as far as its kind tells. -/
def Token.draft : Token → Draft
  | .openBrace => .object [] .broken
  | .openBracket => .array [] false
  | .null => .null
  | .bool b => .bool b
  | .number n => .number n
  | .text s => .text s
  | .closeBrace | .closeBracket | .comma | .colon | .fault => .fault

/-- The refusal of a value of the wrong kind. -/
def Refusal.unexpected (expected : String) (d : Draft) : Refusal :=
  match d.kind? with
  | none => .malformed
  | some kind => .misfit (.kind kind expected)

end ControlPlane.Json
