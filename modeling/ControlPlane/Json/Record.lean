import ControlPlane.Json.Decoder

/-!
# Records

A record is written as an object whose members are its fields, or as an array
of the fields in their order.  It is read in two steps.  First the members are
vetted from left to right: no field may come twice, every field has to fit, and
what is no field only has to be JSON.  Then the fields are taken by their
names, in the order of their declaration, which is where absent ones show.
-/

namespace ControlPlane.Json

/-- A field of a record, as far as vetting needs to know it. -/
structure Field where
  name : String
  /-- Reads the value and forgets it. -/
  check : Decoder Unit
  /-- May an array end before this field? -/
  mayEnd : Bool

/-- The field that a decoder reads. -/
def Field.of (name : String) (decode : Decoder α) : Field where
  name
  check := fun depth d => (decode depth d).map fun _ => ()
  mayEnd := false

/-- The same field, before which an array may end. -/
def Field.orEnd (field : Field) : Field :=
  { field with mayEnd := true }

namespace Record

/-- The field of a name. -/
def field? (fields : List Field) (name : String) : Option Field :=
  fields.find? fun f => f.name = name

/-- Vets the end of an object: a name without a value may still be one name too
many. -/
def vetTail (fields : List Field) (seen : List String) : Tail → Except Refusal Unit
  | .closed => .ok ()
  | .bareKey (some name) =>
      if (field? fields name).isSome ∧ name ∈ seen then .error (.misfit (.duplicate name))
      else .error .malformed
  | .bareKey none | .broken | .stray _ => .error .malformed

/-- Vets the members of an object from left to right and keeps those that are
fields. -/
def vetMembers (fields : List Field) (depth : Nat) (tail : Tail) :
    List String → List (Option String × Draft) → Except Refusal (List (String × Draft))
  | seen, [] => (vetTail fields seen tail).map fun _ => []
  | _, (none, _) :: _ => .error .malformed
  | seen, (some name, d) :: rest =>
      match field? fields name with
      | some field =>
          if name ∈ seen then .error (.misfit (.duplicate name))
          else do
            field.check depth d
            let kept ← vetMembers fields depth tail (name :: seen) rest
            return (name, d) :: kept
      | none =>
          if d.isValue then vetMembers fields depth tail seen rest
          else .error .malformed

/-- Vets the items of an array from left to right against the fields in their
order and names them.  `index` counts the fields that came before. -/
def vetItems (expected : String) (depth : Nat) (closed : Bool) :
    Nat → List Field → List Draft → Except Refusal (List (String × Draft))
  | _, [], items => if items.isEmpty ∧ closed then .ok [] else .error .malformed
  | index, field :: fields, [] =>
      if !closed then .error .malformed
      else if field.mayEnd then vetItems expected depth closed (index + 1) fields []
      else .error (.misfit (.length index expected))
  | index, field :: fields, d :: items => do
      field.check depth d
      let kept ← vetItems expected depth closed (index + 1) fields items
      return (field.name, d) :: kept

/-- How messages call a record. -/
def title (name : String) : String :=
  "struct " ++ name

/-- A count of elements in words. -/
def elements (count : Nat) : String :=
  Text.decimalText count ++ if count = 1 then " element" else " elements"

/-- How messages call an array that holds a record. -/
def arrayTitle (name : String) (fields : List Field) : String :=
  title name ++ " with " ++ elements fields.length

/-- The fields of a record that are there, by name. -/
def vet (name : String) (fields : List Field) (depth : Nat) :
    Draft → Except Refusal (List (String × Draft))
  | .object members tail => do
      let depth ← enter depth
      vetMembers fields depth tail [] members
  | .array items closed => do
      let depth ← enter depth
      vetItems (arrayTitle name fields) depth closed 0 fields items
  | d => .error (.unexpected (title name) d)

/-- The value of a field that has to be there. -/
def required (kept : List (String × Draft)) (name : String) (decode : Decoder α)
    (depth : Nat) : Except Refusal α :=
  match kept.lookup name with
  | some d => decode depth d
  | none => .error (.misfit (.missing name))

/-- The value of a field that may be absent. -/
def optional (kept : List (String × Draft)) (name : String) (decode : Decoder α)
    (absent : α) (depth : Nat) : Except Refusal α :=
  match kept.lookup name with
  | some d => decode depth d
  | none => .ok absent

end Record

end ControlPlane.Json
