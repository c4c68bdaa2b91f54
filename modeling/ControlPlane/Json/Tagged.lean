import ControlPlane.Json.Record

/-!
# Tagged alternatives

An alternative is written as an object with one member more than its fields,
the tag, which names it.  The tag may stand anywhere, so the whole object is
looked into before the fields are read: what it holds has to be readable even
where it is no field.  Written as an array, the tag comes first and the fields
follow in their order.
-/

namespace ControlPlane.Json

namespace Draft

mutual

/-- May the draft be looked into?  It has to be a JSON value without lone
surrogates and overflowing numbers, and not nest too deeply. -/
def isReadable (depth : Nat) : Draft → Bool
  | fault => false
  | null | bool _ => true
  | number n => (Number.ofNumeral? n).isSome
  | text s => s.isSome
  | array items closed => 1 < depth && areReadable (depth - 1) items && closed
  | object members tail =>
      1 < depth && areReadableMembers (depth - 1) members && tail = .closed

/-- May all items be looked into? -/
def areReadable (depth : Nat) : List Draft → Bool
  | [] => true
  | d :: rest => d.isReadable depth && areReadable depth rest

/-- May all members be looked into? -/
def areReadableMembers (depth : Nat) : List (Option String × Draft) → Bool
  | [] => true
  | (key, d) :: rest =>
      key.isSome && d.isReadable depth && areReadableMembers depth rest

end

end Draft

/-- One of several alternatives. -/
structure Alternative (α : Type) where
  /-- How messages call it. -/
  title : String
  fields : List Field
  /-- Takes the fields by name. -/
  build : List (String × Draft) → Nat → Except Refusal α

namespace Tagged

/-- Looks through the members of an object for the tag and keeps the others. -/
def gather (tag : String) (choices : List (String × Alternative α)) (depth : Nat)
    (tail : Tail) :
    Option (Alternative α) → List (Option String × Draft) →
      Except Refusal (Option (Alternative α) × List (String × Draft))
  | found, [] =>
      if tail = .closed then .ok (found, [])
      else if tail = .bareKey (some tag) ∧ found.isSome then
        .error (.misfit (.duplicate tag))
      else .error .malformed
  | _, (none, _) :: _ => .error .malformed
  | found, (some key, d) :: rest =>
      if key = tag then
        if found.isSome then .error (.misfit (.duplicate tag))
        else do
          let chosen ← Decoder.name choices depth d
          gather tag choices depth tail (some chosen) rest
      else if d.isReadable depth then do
        let (found, others) ← gather tag choices depth tail found rest
        return (found, (key, d) :: others)
      else .error .malformed

/-- Vets the items after the tag against the fields in their order.  `index`
counts the items that came before. -/
def vetItems (title : String) (depth : Nat) :
    Nat → List Field → List Draft → Except Refusal (List (String × Draft))
  | _, [], [] => .ok []
  | index, [], extra :: rest =>
      .error (.misfit (.length (index + (extra :: rest).length)
        (Record.elements index ++ " in sequence")))
  | index, field :: fields, [] =>
      .error (.misfit (.length index
        (title ++ " with " ++ Record.elements (index + (field :: fields).length))))
  | index, field :: fields, d :: items => do
      field.check depth d
      let kept ← vetItems title depth (index + 1) fields items
      return (field.name, d) :: kept

/-- Reads a tagged alternative. -/
def decode (title tag : String) (choices : List (String × Alternative α)) : Decoder α
  | depth, .object members tail => do
      let depth ← enter depth
      let (found, others) ← gather tag choices depth tail none members
      match found with
      | none => .error (.misfit (.missing tag))
      | some chosen => do
          let kept ← Record.vetMembers chosen.fields depth .closed []
            (others.map fun (key, d) => (some key, d))
          chosen.build kept depth
  | depth, .array [] closed => do
      let _ ← enter depth
      if closed then .error (.misfit (.missing tag)) else .error .malformed
  | depth, .array (first :: items) closed => do
      let depth ← enter depth
      let chosen ← Decoder.name choices depth first
      if Draft.areReadable depth items && closed then do
        let kept ← vetItems chosen.title depth 0 chosen.fields items
        chosen.build kept depth
      else .error .malformed
  | _, d => .error (.unexpected title d)

end Tagged

end ControlPlane.Json
