import ControlPlane.Settings.Raw
import ControlPlane.Toml.Document

/-!
# Layers of settings

A layer is one source of settings: raw values under names.  A name may be a path
into a composite value: dots go to members, brackets to items.  A layer that holds
something below a setting thereby holds a composite value for the setting itself.

Variables of the environment are one layer; only those with the right first letters
count, and the case of their names does not.  The text of a variable is taken for a
truth value or a number if it looks like one.  The top level of a file is another.
-/

namespace ControlPlane

/-! ## Paths -/

namespace SettingPath

/-- How far a path has been read. -/
inductive Stage
  /-- After a dot; a name is due. -/
  | dot
  | name
  /-- After an opening bracket; a minus sign or a digit is due. -/
  | bracket
  /-- After a minus sign; a digit is due. -/
  | minus
  | index
  /-- After a closing bracket. -/
  | closed
deriving Repr, DecidableEq

/-- A character of a name on a path. -/
def isNameChar (c : Char) : Bool :=
  c.isAlphanum || c = '_' || c = '-'

/-- A step of the path begins. -/
def begin? (c : Char) : Option Stage :=
  if c = '.' then some .dot
  else if c = '[' then some .bracket
  else none

/-- The path after one more character. -/
def step : Stage → Char → Option Stage
  | .dot, c => if isNameChar c then some .name else none
  | .name, c => if isNameChar c then some .name else begin? c
  | .bracket, c =>
      if c = '-' then some .minus
      else if Text.isDecimal c then some .index
      else none
  | .minus, c => if Text.isDecimal c then some .index else none
  | .index, c =>
      if c = ']' then some .closed
      else if Text.isDecimal c then some .index
      else none
  | .closed, c => begin? c

/-- Is a text a path from some value to a part of it? -/
def isDescent (s : List Char) : Bool :=
  match s.foldlM step .closed with
  | some .name => true
  | some .closed => !s.isEmpty
  | _ => false

/-- Does a name lead to a part of the value of a setting? -/
def isBelow (setting name : String) : Bool :=
  let setting := setting.toList
  let name := name.toList
  setting.isPrefixOf name && isDescent (name.drop setting.length)

end SettingPath

/-! ## Layers -/

/-- Raw values under names. -/
abbrev Layer :=
  List (String × Raw)

namespace Layer

/-- What a layer holds for a setting: the raw value under its name, or something
composite if it holds parts of the setting only. -/
def raw? (layer : Layer) (setting : String) : Option Raw :=
  match layer.lookup setting with
  | some raw => some raw
  | none =>
      if layer.any fun entry => SettingPath.isBelow setting entry.1 then some .composite
      else none

end Layer

/-! ## The environment -/

/-- What the names of variables begin with. -/
def variablePrefix : String := "SSI"

/-- The name of a setting, by the name of its variable. -/
def settingOfVariable? (name : String) : Option String :=
  let name := (Raw.inSmallLetters name).toList
  let front := (Raw.inSmallLetters variablePrefix).toList ++ ['_']
  if front.isPrefixOf name then some (String.ofList (name.drop front.length)) else none

/-- What the text of a variable is taken for. -/
def Raw.ofVariable (s : String) : Raw :=
  let word := inSmallLetters s
  if word = "true" then .bool true
  else if word = "false" then .bool false
  else
    match (Text.integerValue? s.toList).filter Text.isInteger64 with
    | some i => .integer i
    | none =>
        match Number.Binary64.ofText? s.toList with
        | some x => .float x
        | none => .text s

/-- The layer of an environment.  Of two variables whose names differ in case
only the later one counts. -/
def Layer.ofEnvironment (environment : List (String × String)) : Layer :=
  environment.reverse.filterMap fun v =>
    (settingOfVariable? v.1).map fun setting => (setting, Raw.ofVariable v.2)

/-! ## Files -/

/-- The raw value of a member of a file. -/
def Raw.ofToml : Toml.Value → Raw
  | .bool b => .bool b
  | .integer i => .integer i
  | .float x => .float x
  | .text s => .text s
  | .array _ | .table _ | .tables _ _ => .composite

/-- The layer of a document. -/
def Layer.ofDocument (t : Toml.Table Toml.Value) : Layer :=
  t.members.map fun m => (m.1, Raw.ofToml m.2)

end ControlPlane
