import ControlPlane.Json.Refusal

/-!
# Decoders

A decoder turns a draft into a value of some type or says why it cannot.  It is
also told how many containers may still be opened: a text may nest 127
containers that are looked into, while values that nobody looks at may nest to
any depth.
-/

namespace ControlPlane.Json

/-- Reads a draft, given how many more containers may be opened plus one. -/
abbrev Decoder (α : Type) :=
  Nat → Draft → Except Refusal α

/-- One more than the number of containers that a text may open. -/
def depthLimit : Nat := 128

/-- Opens a container. -/
def enter (depth : Nat) : Except Refusal Nat :=
  if depth ≤ 1 then .error .malformed else .ok (depth - 1)

namespace Decoder

/-- A natural number below a limit. -/
def natural (limit : Nat) (expected : String) : Decoder Nat
  | _, .number n =>
      match Number.ofNumeral? n with
      | none => .error .malformed
      | some (.natural value) =>
          if value < limit then .ok value
          else .error (.misfit (.range value expected))
      | some (.negative value) => .error (.misfit (.range (-value) expected))
      | some (.real x) => .error (.misfit (.kind (.real x) expected))
  | _, d => .error (.unexpected expected d)

/-- A 16-bit number. -/
def uint16 : Decoder UInt16 := fun depth d =>
  (natural UInt16.size "u16" depth d).map UInt16.ofNat

/-- A 32-bit number. -/
def uint32 : Decoder UInt32 := fun depth d =>
  (natural UInt32.size "u32" depth d).map UInt32.ofNat

/-- A 64-bit number. -/
def uint64 : Decoder UInt64 := fun depth d =>
  (natural UInt64.size "u64" depth d).map UInt64.ofNat

/-- A text that is read further. -/
def textAs (expected : String) (read : String → Except Refusal α) : Decoder α
  | _, .text (some s) => read s
  | _, d => .error (.unexpected expected d)

/-- A text. -/
def text : Decoder String :=
  textAs "a string" .ok

/-- `null`, or what another decoder reads. -/
def nullable (decode : Decoder α) : Decoder (Option α)
  | _, .null => .ok none
  | depth, d => (decode depth d).map some

/-- Decodes items from left to right. -/
def items (decode : Decoder α) (depth : Nat) : List Draft → Except Refusal (List α)
  | [] => .ok []
  | d :: rest => do
      let head ← decode depth d
      let tail ← items decode depth rest
      return head :: tail

/-- A sequence. -/
def sequence (decode : Decoder α) : Decoder (List α)
  | depth, .array ds closed => do
      let depth ← enter depth
      let values ← items decode depth ds
      if closed then return values else .error .malformed
  | _, d => .error (.unexpected "a sequence" d)

/-! ## Names of alternatives -/

/-- The alternative of a name. -/
def chosen (choices : List (String × α)) (name : String) : Except Refusal α :=
  match choices.lookup name with
  | some value => .ok value
  | none => .error (.misfit (.variant name (choices.map Prod.fst)))

/-- A text that names an alternative. -/
def name (choices : List (String × α)) : Decoder α :=
  textAs "variant identifier" (chosen choices)

/-- An alternative, written as its name or as an object with the name as its
only member and `null` as the value.  Values of other kinds are malformed. -/
def choice (choices : List (String × α)) : Decoder α
  | depth, .text (some s) => name choices depth (.text (some s))
  | depth, .object ((key, d) :: rest) tail => do
      let depth ← enter depth
      let value ← name choices depth (.text key)
      match d with
      | .null => if rest.isEmpty ∧ tail = .closed then return value else .error .malformed
      | d => .error (.unexpected "unit" d)
  | depth, .object [] (.bareKey key) => do
      let depth ← enter depth
      let _ ← name choices depth (.text key)
      .error .malformed
  | depth, .object [] (.stray token) => do
      let _ ← enter depth
      .error (.unexpected "variant identifier" token.draft)
  | _, _ => .error .malformed

/-! ## Whole texts -/

/-- Decodes a text.  A misfit counts before what follows the value. -/
def ofText (decode : Decoder α) (s : String) : Except Refusal α :=
  match Draft.ofText s.toList with
  | (d, rest) =>
      match decode depthLimit d with
      | .error refusal => .error refusal
      | .ok value => if rest.isEmpty then .ok value else .error .malformed

end Decoder

end ControlPlane.Json
