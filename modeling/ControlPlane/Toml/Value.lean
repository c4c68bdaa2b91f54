import ControlPlane.Number.Binary64

/-!
# Values and tables of TOML

A document is a table.  Tables come about in different ways, and the way decides
what may be added later: this is how TOML keeps a table from being defined
twice.  Changes that are not allowed have no result.
-/

namespace ControlPlane.Toml

open ControlPlane.Number (Binary64)

/-- How a table came about. -/
inductive TableKind
  /-- It has a header of its own; so has the document itself. -/
  | explicit
  /-- It lies on the way to a table with a header. -/
  | implicit
  /-- A dotted key goes through it. -/
  | dotted
  /-- It is written between braces; nothing can be added. -/
  | inline
deriving Repr, DecidableEq

/-- Members under keys, each key once. -/
structure Table (α : Type) where
  kind : TableKind
  members : List (String × α)
deriving Repr

/-- A value. -/
inductive Value
  | bool (value : Bool)
  | integer (value : Int)
  | float (value : Binary64)
  | text (content : String)
  | array (items : List Value)
  | table (t : Table Value)
  /-- Tables under one header that is repeated; the last one is still open. -/
  | tables (earlier : List (Table Value)) (last : Table Value)
deriving Repr

namespace Table

/-- A table without members. -/
def empty (kind : TableKind) : Table α :=
  ⟨kind, []⟩

/-- The member under a key. -/
def get? (t : Table α) (key : String) : Option α :=
  t.members.lookup key

/-- The table with a member added at its end, or in place of the one that it has
under this key. -/
def put (t : Table α) (key : String) (value : α) : Table α :=
  if (t.get? key).isSome then
    { t with members := t.members.map fun m => if m.1 = key then (key, value) else m }
  else { t with members := t.members ++ [(key, value)] }

/-- Changes the table that the keys lead to.  Missing tables on the way are made
of the given kind.  Tables between braces are closed, and dotted keys do not
enter tables with headers of their own. -/
def within (kind : TableKind) (change : Table Value → Option (Table Value)) :
    List String → Table Value → Option (Table Value)
  | [], t => change t
  | key :: path, t =>
      match t.get? key with
      | none => (within kind change path (empty kind)).map fun sub => t.put key (.table sub)
      | some (.table sub) =>
          if sub.kind = .inline ∨ (kind = .dotted ∧ sub.kind = .explicit) then none
          else (within kind change path sub).map fun sub => t.put key (.table sub)
      | some (.tables earlier last) =>
          (within kind change path last).map fun last => t.put key (.tables earlier last)
      | some _ => none

/-- Adds a member under a dotted key, given by the keys before its last dot and
the key after it.  A table that dotted keys made takes members by dotted keys
only, and other tables take none by dotted keys. -/
def assign (path : List String) (key : String) (value : Value) (t : Table Value) :
    Option (Table Value) :=
  within .dotted
    (fun t =>
      if (t.kind = .dotted) ≠ (path ≠ []) ∨ (t.get? key).isSome then none
      else some (t.put key value))
    path t

/-- Opens the table of a header. -/
def openTable (path : List String) (key : String) (t : Table Value) : Option (Table Value) :=
  within .implicit
    (fun t =>
      match t.get? key with
      | none => some (t.put key (.table (empty .explicit)))
      | some (.table sub) =>
          if sub.kind = .implicit then some (t.put key (.table { sub with kind := .explicit }))
          else none
      | some _ => none)
    path t

/-- Opens a new table of a header that may be repeated. -/
def openElement (path : List String) (key : String) (t : Table Value) : Option (Table Value) :=
  within .implicit
    (fun t =>
      match t.get? key with
      | none => some (t.put key (.tables [] (empty .explicit)))
      | some (.tables earlier last) =>
          some (t.put key (.tables (earlier ++ [last]) (empty .explicit)))
      | some _ => none)
    path t

end Table

end ControlPlane.Toml
