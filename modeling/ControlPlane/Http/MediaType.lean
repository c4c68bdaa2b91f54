import ControlPlane.Http.Message

/-!
# Media types

A media type is a type, a subtype and parameters.  The subtype may end in a
suffix after a plus sign.  JSON is `application/json` with any suffix, or any
subtype of `application` with the suffix `json`.
-/

namespace ControlPlane.Http.MediaType

/-! ## Parameters -/

/-- How far parameters have been read. -/
inductive Stage
  | start
  | name
  | valueStart
  | value
  | quotedStart
  | quoted
  | afterQuoted
deriving Repr, DecidableEq

/-- A character of a quoted value. -/
def isQuotable (c : Char) : Bool :=
  0x20 ≤ c.toNat && c.toNat ≠ 0x7F

/-- One more character of the parameters, if it may stand there.  A quoted value
has no escapes and at least one character, which may be a quote. -/
def Stage.next? : Stage → Char → Option Stage
  | start, c =>
      if c = ' ' then some start else if isTokenChar c then some name else none
  | name, c =>
      if isTokenChar c then some name else if c = '=' then some valueStart else none
  | valueStart, c =>
      if c = '"' then some quotedStart else if isTokenChar c then some value else none
  | value, c =>
      if isTokenChar c then some value else if c = ';' then some start else none
  | quotedStart, c => if isQuotable c then some quoted else none
  | quoted, c =>
      if c = '"' then some afterQuoted else if isQuotable c then some quoted else none
  | afterQuoted, c =>
      if c = ';' then some start else if c = ' ' then some afterQuoted else none

/-- May the parameters end here? -/
def Stage.isComplete : Stage → Bool
  | start | valueStart | value | afterQuoted => true
  | name | quotedStart | quoted => false

/-- Are the characters after a semicolon parameters? -/
def areParameters : Stage → List Char → Bool
  | stage, [] => stage.isComplete
  | stage, c :: rest =>
      match stage.next? c with
      | some stage => areParameters stage rest
      | none => false

/-! ## Types -/

/-- A subtype without its suffix, and the suffix if there is one.  The suffix
follows the last plus sign that is not the first character. -/
def splitSuffix (subtype : List Char) : List Char × Option (List Char) :=
  let suffix := (subtype.reverse.takeWhile (· ≠ '+')).reverse
  let front := subtype.take (subtype.length - suffix.length - 1)
  if suffix.length < subtype.length ∧ !front.isEmpty then (front, some suffix)
  else (subtype, none)

/-- Is a subtype of `application` JSON? -/
def isJsonSubtype (subtype : List Char) : Bool :=
  let (front, suffix) := splitSuffix (subtype.map Char.toLower)
  front = "json".toList || suffix = some "json".toList

/-- Is what follows the subtype in order? -/
def isRest (subtype : List Char) : List Char → Bool
  | [] => true
  | c :: rest => c = ';' && !subtype.isEmpty && areParameters .start rest

/-- Is a text a media type of JSON?  Only printable ASCII and tabs may occur. -/
def isJson (s : String) : Bool :=
  let cs := s.toList
  let type := cs.takeWhile isTokenChar
  match cs.drop type.length with
  | '/' :: rest =>
      let subtype := rest.takeWhile isTokenChar
      cs.all (fun c => c.toNat < 0x7F) && type.map Char.toLower = "application".toList &&
        isJsonSubtype subtype && isRest subtype (rest.drop subtype.length)
  | _ => false

end ControlPlane.Http.MediaType
