import ControlPlane.Text.Basic
import ControlPlane.Toml.Scalar
import ControlPlane.Toml.Token

/-!
# Documents

`Document.ofText?` reads a TOML text.  It is an automaton over the tokens: its
state holds the table built so far, the header that is in force, and, while a
value is being read, the containers that are open around it.  A text is no
document as soon as a token does not fit or a change of the table is not
allowed.
-/

namespace ControlPlane.Toml

/-! ## Keys -/

/-- A key that is being read: its parts, the newest first, and whether a part
is due. -/
structure PartialKey where
  parts : List String
  isDue : Bool
deriving Repr, DecidableEq

namespace PartialKey

/-- The key before its first part. -/
def empty : PartialKey :=
  ⟨[], true⟩

/-- The key with one more part. -/
def addPart (k : PartialKey) (part : String) : Option PartialKey :=
  if k.isDue then some ⟨part :: k.parts, false⟩ else none

/-- The key after a dot. -/
def addDot (k : PartialKey) : Option PartialKey :=
  if k.isDue then none else some { k with isDue := true }

/-- The key with a bare part, or as it is if there is nothing. -/
def addBare (k : PartialKey) (letters : List Char) : Option PartialKey :=
  if letters.isEmpty then some k
  else if letters.all isBareKeyChar then k.addPart (String.ofList letters)
  else none

/-- The key with bare parts between dots. -/
def addBares (k : PartialKey) : List (List Char) → Option PartialKey
  | [] => some k
  | [letters] => k.addBare letters
  | letters :: rest => do (← (← k.addBare letters).addDot).addBares rest

/-- The key after one more token. -/
def extend? (k : PartialKey) : Token → Option PartialKey
  | .word letters => k.addBares (Text.cut '.' letters)
  | .text content false => k.addPart content
  | _ => none

/-- The parts before the last dot and the part after it. -/
def finish? (k : PartialKey) : Option (List String × String) :=
  match k.isDue, k.parts with
  | false, key :: before => some (before.reverse, key)
  | _, _ => none

end PartialKey

/-! ## Reading -/

/-- What a value is for. -/
inductive Frame
  /-- The member of the document under a key. -/
  | entry (path : List String) (key : String)
  /-- The next item of an array. -/
  | item (earlier : List Value)
  /-- The member of a table between braces under a key. -/
  | member (siblings : Table Value) (path : List String) (key : String)
deriving Repr

/-- How far a document has been read. -/
inductive Stage
  /-- A line begins. -/
  | line
  /-- After the first bracket of a line. -/
  | bracket
  /-- In a header; may it be repeated? -/
  | header (isElement : Bool) (key : PartialKey)
  /-- A second closing bracket is due. -/
  | secondBracket (path : List String) (key : String)
  /-- In the key of an entry. -/
  | key (key : PartialKey)
  /-- After the equals sign; a value is due. -/
  | value (frame : Frame)
  /-- In an array, where an item may follow. -/
  | items (earlier : List Value)
  /-- In an array, after an item. -/
  | afterItem (earlier : List Value)
  /-- In a table between braces, where a member may follow. -/
  | members (siblings : Table Value)
  /-- In the key of a member. -/
  | memberKey (siblings : Table Value) (key : PartialKey)
  /-- In a table between braces, after a member. -/
  | afterMember (siblings : Table Value)
  /-- The end of the line is due. -/
  | lineEnd
deriving Repr

/-- A document that is being read. -/
structure Reading where
  root : Table Value
  /-- The keys of the header in force. -/
  header : List String
  /-- What the open containers are for, the innermost first. -/
  frames : List Frame
  stage : Stage
deriving Repr

namespace Reading

/-- How many containers may be open within one another. -/
def depthLimit : Nat := 80

/-- Nothing has been read. -/
def start : Reading where
  root := .empty .explicit
  header := []
  frames := []
  stage := .line

/-- Puts a value where it belongs. -/
def settle (r : Reading) (frame : Frame) (frames : List Frame) (v : Value) : Option Reading :=
  match frame with
  | .entry path key => do
      let root ← Table.within .implicit (Table.assign path key v) r.header r.root
      return { r with root, frames, stage := .lineEnd }
  | .item earlier => some { r with frames, stage := .afterItem (earlier ++ [v]) }
  | .member siblings path key => do
      return { r with frames, stage := .afterMember (← siblings.assign path key v) }

/-- A container ends. -/
def close (r : Reading) (v : Value) : Option Reading :=
  match r.frames with
  | [] => none
  | frame :: frames => r.settle frame frames v

/-- A container begins. -/
def enter (r : Reading) (frame : Frame) (stage : Stage) : Option Reading :=
  if r.frames.length < depthLimit then some { r with frames := frame :: r.frames, stage }
  else none

/-- A value begins. -/
def value? (r : Reading) (frame : Frame) : Token → Option Reading
  | .word letters => do r.settle frame r.frames (← Value.ofWord? letters)
  | .text content _ => r.settle frame r.frames (.text content)
  | .openBracket _ => r.enter frame (.items [])
  | .openBrace => r.enter frame (.members (.empty .inline))
  | _ => none

/-- A header is complete. -/
def underHeader (r : Reading) (path : List String) (key : String)
    (change : List String → String → Table Value → Option (Table Value)) :
    Option Reading := do
  let root ← change path key r.root
  return { r with root, header := path ++ [key], stage := .lineEnd }

/-- The document after one more token. -/
def step (r : Reading) (token : Token) : Option Reading :=
  match r.stage, token with
  | .line, .newline => some r
  | .line, .openBracket _ => some { r with stage := .bracket }
  | .line, token => do return { r with stage := .key (← PartialKey.empty.extend? token) }
  | .bracket, .openBracket true => some { r with stage := .header true .empty }
  | .bracket, token => do
      return { r with stage := .header false (← PartialKey.empty.extend? token) }
  | .header false key, .closeBracket _ => do
      let (path, key) ← key.finish?
      r.underHeader path key Table.openTable
  | .header true key, .closeBracket _ => do
      let (path, key) ← key.finish?
      return { r with stage := .secondBracket path key }
  | .header isElement key, token => do
      return { r with stage := .header isElement (← key.extend? token) }
  | .secondBracket path key, .closeBracket true => r.underHeader path key Table.openElement
  | .secondBracket _ _, _ => none
  | .key key, .equals => do
      let (path, key) ← key.finish?
      return { r with stage := .value (.entry path key) }
  | .key key, token => do return { r with stage := .key (← key.extend? token) }
  | .value frame, token => r.value? frame token
  | .items _, .newline => some r
  | .items earlier, .closeBracket _ => r.close (.array earlier)
  | .items earlier, token => r.value? (.item earlier) token
  | .afterItem _, .newline => some r
  | .afterItem earlier, .comma => some { r with stage := .items earlier }
  | .afterItem earlier, .closeBracket _ => r.close (.array earlier)
  | .afterItem _, _ => none
  | .members _, .newline => some r
  | .members siblings, .closeBrace => r.close (.table siblings)
  | .members siblings, token => do
      return { r with stage := .memberKey siblings (← PartialKey.empty.extend? token) }
  | .memberKey siblings key, .equals => do
      let (path, key) ← key.finish?
      return { r with stage := .value (.member siblings path key) }
  | .memberKey siblings key, token => do
      return { r with stage := .memberKey siblings (← key.extend? token) }
  | .afterMember _, .newline => some r
  | .afterMember siblings, .comma => some { r with stage := .members siblings }
  | .afterMember siblings, .closeBrace => r.close (.table siblings)
  | .afterMember _, _ => none
  | .lineEnd, .newline => some { r with stage := .line }
  | .lineEnd, _ => none

/-- The table, if the text may end here. -/
def finish? (r : Reading) : Option (Table Value) :=
  match r.stage with
  | .line | .lineEnd => some r.root
  | _ => none

end Reading

/-- The document that a text denotes: its table. -/
def Document.ofText? (s : String) : Option (Table Value) := do
  (← (Token.scan s.toList).foldlM Reading.step Reading.start).finish?

end ControlPlane.Toml
