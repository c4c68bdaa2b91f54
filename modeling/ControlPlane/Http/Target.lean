import ControlPlane.Text.Basic

/-!
# Request targets

A request target names a resource: as a path, as an absolute URI, as an
authority alone, or as `*`.  Only the path matters to a server; what stands in
the query and in the fragment is checked or dropped.  `Target.path?` gives the
path of a valid target.
-/

namespace ControlPlane.Http

/-- Is `c` an ASCII letter? -/
def isLetter (c : Char) : Bool :=
  ('a' ≤ c && c ≤ 'z') || ('A' ≤ c && c ≤ 'Z')

namespace Target

/-- The greatest length of a target in octets. -/
def lengthLimit : Nat := 65534

/-- Characters that may not stand in a path as they are. -/
def isBarredInPath (c : Char) : Bool :=
  c.toNat ≤ 0x20 || c = '<' || c = '>' || c.toNat = 0x60

/-- Characters that may not stand in a query as they are. -/
def isBarredInQuery (c : Char) : Bool :=
  c.toNat ≤ 0x20 || c = '<' || c = '>' || c = '"'

/-- Is what follows a question mark in order?  A fragment is not looked at. -/
def isQuery : List Char → Bool
  | [] => true
  | '#' :: _ => true
  | c :: rest => !isBarredInQuery c && isQuery rest

/-- The path at the front of a text, if it and the query after it are in order. -/
def pathPart? : List Char → Option (List Char)
  | [] => some []
  | '#' :: _ => some []
  | '?' :: rest => if isQuery rest then some [] else none
  | c :: rest => if isBarredInPath c then none else (pathPart? rest).map (c :: ·)

/-! ## Authorities -/

/-- The characters of an authority besides letters and digits. -/
def authorityMarks : List Char :=
  ['!', '$', '&', '\'', '(', ')', '*', '+', ',', '-', '.', ':', ';', '=', '@', '[', ']',
   '_', '~']

/-- What has been seen of an authority. -/
structure Seen where
  /-- Colons since the user information and the bracketed host. -/
  colons : Nat
  opened : Bool
  closed : Bool
  /-- A percent sign since the user information and the bracketed host. -/
  percent : Bool
  /-- Was the last character an at sign? -/
  atSign : Bool

/-- Nothing has been seen. -/
def Seen.nothing : Seen :=
  ⟨0, false, false, false, false⟩

/-- One more character of an authority, if it may stand there. -/
def Seen.add? (seen : Seen) (c : Char) : Option Seen :=
  let seen := { seen with atSign := false }
  if c = ':' then
    if 8 ≤ seen.colons then none else some { seen with colons := seen.colons + 1 }
  else if c = '[' then
    if seen.percent || seen.opened then none else some { seen with opened := true }
  else if c = ']' then
    if !seen.opened || seen.closed then none
    else some { seen with closed := true, colons := 0, percent := false }
  else if c = '@' then some { seen with colons := 0, percent := false, atSign := true }
  else if c = '%' then some { seen with percent := true }
  else if isLetter c || Text.isDecimal c || authorityMarks.contains c then some seen
  else none

/-- May an authority end here? -/
def Seen.isComplete (seen : Seen) : Bool :=
  seen.opened == seen.closed && seen.colons ≤ 1 && !seen.atSign && !seen.percent

/-- What follows the authority at the front of a text, if it is in order. -/
def afterAuthority? (seen : Seen) : List Char → Option (List Char)
  | [] => if seen.isComplete then some [] else none
  | c :: rest =>
      if c = '/' ∨ c = '?' ∨ c = '#' then
        if seen.isComplete then some (c :: rest) else none
      else (seen.add? c).bind fun seen => afterAuthority? seen rest

/-! ## Schemes -/

/-- A character of a scheme. -/
def isSchemeChar (c : Char) : Bool :=
  isLetter c || Text.isDecimal c || c = '+' || c = '-' || c = '.' || c = '~'

/-- The greatest length of a scheme. -/
def schemeLimit : Nat := 64

/-- What follows a scheme and `://`, if the text begins so. -/
def afterScheme? (s : List Char) : Option (List Char) :=
  match s.dropWhile isSchemeChar with
  | ':' :: '/' :: '/' :: rest => some rest
  | _ => none

/-- The length of the scheme of a text that has one. -/
def schemeLength (s : List Char) : Nat :=
  (s.takeWhile isSchemeChar).length

/-! ## Whole targets -/

/-- The path of a URI; an empty one is the root. -/
def rooted (path : List Char) : List Char :=
  if path.isEmpty then ['/'] else path

/-- The path of a target that is no path itself.  An authority alone has none. -/
def absolutePath? (s : List Char) : Option (List Char) :=
  match afterScheme? s with
  | none => (afterAuthority? .nothing s).bind fun rest => if rest.isEmpty then some [] else none
  | some rest =>
      if schemeLimit < schemeLength s then none
      else
        (afterAuthority? .nothing rest).bind fun after =>
          if after.length = rest.length then none else (pathPart? after).map rooted

/-- The path of a valid target. -/
def path? (target : String) : Option (List Char) :=
  if lengthLimit < target.utf8ByteSize then none
  else
    match target.toList with
    | [] => none
    | ['*'] => some ['*']
    | '/' :: rest => pathPart? ('/' :: rest)
    | s => absolutePath? s

end Target

end ControlPlane.Http
