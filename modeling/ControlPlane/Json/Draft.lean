import ControlPlane.Json.Token

/-!
# Drafts: what a text amounts to up to its first fault

A draft is the tree that the tokens of a text build.  It exists for every
text: where the text stops being JSON the tree has a `fault`, and every
container that was open there is marked as not closed.  Decoders walk a draft
from left to right, so that of two problems in a text the one that stands first
is the one they meet first.

Tokens are read with a stack of the containers that are open.  Both functions
below take tokens off the front of the list, so they recurse on its structure.
-/

namespace ControlPlane.Json

open ControlPlane.Number (Numeral)

/-- How the members of an object end. -/
inductive Tail
  | closed
  /-- Something other than a comma and a member, or the closing brace. -/
  | broken
  /-- A name without a colon after it. -/
  | bareKey (key : Option String)
  /-- Another token where the first name is due. -/
  | stray (token : Token)
deriving Repr, DecidableEq

/-- What a text amounts to up to its first fault. -/
inductive Draft
  | fault
  | null
  | bool (value : Bool)
  | number (numeral : Numeral)
  /-- A text; `none` if it holds a lone surrogate. -/
  | text (content : Option String)
  | array (items : List Draft) (closed : Bool)
  | object (members : List (Option String × Draft)) (tail : Tail)
deriving Repr

/-- A container that is open, with what it holds so far, the newest first. -/
inductive Frame
  | array (items : List Draft)
  /-- An object that waits for the value of `key`. -/
  | object (members : List (Option String × Draft)) (key : Option String)

namespace Draft

/-- The containers around a fault are not closed. -/
def unwind : Draft → List Frame → Draft
  | d, [] => d
  | d, .array items :: frames =>
      unwind (.array (d :: items).reverse false) frames
  | d, .object members key :: frames =>
      unwind (.object ((key, d) :: members).reverse .broken) frames

mutual

/-- Reads the value that is due at the front of the tokens, and goes on with
the containers around it. -/
def read : List Token → List Frame → Draft × List Token
  | .null :: rest, frames => place .null rest frames
  | .bool b :: rest, frames => place (.bool b) rest frames
  | .number n :: rest, frames => place (.number n) rest frames
  | .text s :: rest, frames => place (.text s) rest frames
  | .openBracket :: .closeBracket :: rest, frames => place (.array [] true) rest frames
  | .openBracket :: rest, frames => read rest (.array [] :: frames)
  | .openBrace :: .closeBrace :: rest, frames => place (.object [] .closed) rest frames
  | .openBrace :: .text key :: .colon :: rest, frames => read rest (.object [] key :: frames)
  | .openBrace :: .text key :: _, frames => (unwind (.object [] (.bareKey key)) frames, [])
  | .openBrace :: token :: _, frames => (unwind (.object [] (.stray token)) frames, [])
  | [.openBrace], frames => (unwind (.object [] .broken) frames, [])
  | _, frames => (unwind .fault frames, [])

/-- Puts a finished value into the innermost open container and goes on with
what follows it there. -/
def place : Draft → List Token → List Frame → Draft × List Token
  | d, rest, [] => (d, rest)
  | d, .comma :: rest, .array items :: frames => read rest (.array (d :: items) :: frames)
  | d, .closeBracket :: rest, .array items :: frames =>
      place (.array (d :: items).reverse true) rest frames
  | d, _, .array items :: frames =>
      (unwind (.array (d :: items).reverse false) frames, [])
  | d, .comma :: .text next :: .colon :: rest, .object members key :: frames =>
      read rest (.object ((key, d) :: members) next :: frames)
  | d, .comma :: .text next :: _, .object members key :: frames =>
      (unwind (.object ((key, d) :: members).reverse (.bareKey next)) frames, [])
  | d, .closeBrace :: rest, .object members key :: frames =>
      place (.object ((key, d) :: members).reverse .closed) rest frames
  | d, _, .object members key :: frames =>
      (unwind (.object ((key, d) :: members).reverse .broken) frames, [])

end

/-- The draft of a text, and the tokens that follow it. -/
def ofText (s : List Char) : Draft × List Token :=
  read (Token.scan s) []

/-! ## Faultless drafts -/

mutual

/-- Is the draft a JSON value?  Lone surrogates, numbers of any size and any
depth are allowed: this is what is asked of values that nobody looks at. -/
def isValue : Draft → Bool
  | fault => false
  | null | bool _ | number _ | text _ => true
  | array items closed => areValues items && closed
  | object members tail => areMemberValues members && tail = .closed

/-- Is every item a JSON value? -/
def areValues : List Draft → Bool
  | [] => true
  | d :: rest => d.isValue && areValues rest

/-- Is the value of every member a JSON value? -/
def areMemberValues : List (Option String × Draft) → Bool
  | [] => true
  | (_, d) :: rest => d.isValue && areMemberValues rest

end

end Draft

end ControlPlane.Json
