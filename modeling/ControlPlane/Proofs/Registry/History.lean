import ControlPlane.Proofs.Latest
import ControlPlane.Proofs.Registry.Step

/-!
# What a history says

A history is the list of the calls that were made, each with the instant and
with whether it succeeded.  It says by itself what there is: the cluster is the
one of the latest creation, unless it was destroyed since, and a node is a
member by its latest joining, unless it left since.  No table is kept; every
question is answered by searching the history.
-/

namespace ControlPlane

open ControlPlane.Time (Instant)

/-- A call that was made. -/
structure Entry where
  now : Instant
  call : Call
  succeeded : Bool

/-- The calls of a run as they were made. -/
def Registry.history (r : Registry) : List (Instant × Call) → List Entry
  | [] => []
  | (now, call) :: rest =>
      let outcome := r.run now call
      ⟨now, call, outcome.failure?.isNone⟩ :: outcome.registry.history rest

/-- A creation: when, under which name, and with which nodes. -/
structure Founding where
  now : Instant
  name : String
  nodes : List NodeSpec

/-- What can happen to the nodes of a cluster. -/
inductive Change
  | joined (now : Instant) (spec : NodeSpec)
  | left (id : UInt32)
  | registered (id : UInt32) (e : Endpoint)

namespace Entry

/-- The creation of a cluster, if it succeeded. -/
def founding? : Entry → Option Founding
  | ⟨now, .create name nodes, true⟩ => some ⟨now, name, nodes⟩
  | _ => none

/-- Did the call destroy the cluster? -/
def isDestruction : Entry → Bool
  | ⟨_, .destroy, true⟩ => true
  | _ => false

/-- What the call did to a node, if it succeeded. -/
def change? : Entry → Option Change
  | ⟨now, .add spec, true⟩ => some (.joined now spec)
  | ⟨_, .remove id, true⟩ => some (.left id)
  | ⟨_, .register id e, true⟩ => some (.registered id e)
  | _ => none

end Entry

/-- The cluster that there is was founded thus, and these calls came since: no
other creation, and no destruction. -/
abbrev Founded (h : List Entry) (founding : Founding) (calls : List Entry) : Prop :=
  Stands Entry.founding? Entry.isDestruction h founding calls

/-- The latest creation of a history and the calls since, unless the cluster was
destroyed by one of them. -/
def lifetime? (h : List Entry) : Option (Founding × List Entry) :=
  standing? Entry.founding? Entry.isDestruction h

theorem lifetime?_eq_some_iff {h calls : List Entry} {founding : Founding} :
    lifetime? h = some (founding, calls) ↔ Founded h founding calls :=
  standing?_eq_some_iff

/-- What happened to the nodes of a cluster: the nodes it was created with
joined first, in their order. -/
def Founding.changes (founding : Founding) (calls : List Entry) : List Change :=
  founding.nodes.map (.joined founding.now) ++ calls.filterMap Entry.change?

theorem Founding.changes_append_singleton (founding : Founding) (calls : List Entry)
    (entry : Entry) :
    founding.changes (calls ++ [entry]) = founding.changes calls ++ entry.change?.toList := by
  rw [changes, changes, List.filterMap_append, List.append_assoc, List.filterMap_cons,
    List.filterMap_nil]
  cases entry.change? <;> rfl

namespace Change

/-- The joining of a node. -/
def joining? (id : UInt32) : Change → Option (Instant × NodeSpec)
  | joined now spec => if id = spec.nodeId then some (now, spec) else none
  | left _ | registered _ _ => none

/-- Did the node leave? -/
def isLeaving (id : UInt32) : Change → Bool
  | left other => id = other
  | joined _ _ | registered _ _ => false

/-- The endpoint that was registered for a node. -/
def registration? (id : UInt32) : Change → Option Endpoint
  | registered other e => if id = other then some e else none
  | joined _ _ | left _ => none

section

variable {id other : UInt32} {now : Instant} {spec : NodeSpec} {e : Endpoint}

theorem joining?_self : (joined now spec).joining? spec.nodeId = some (now, spec) :=
  if_pos rfl

theorem joining?_of_ne (ne : id ≠ spec.nodeId) : (joined now spec).joining? id = none :=
  if_neg ne

theorem isLeaving_self : (left id).isLeaving id = true :=
  decide_eq_true rfl

theorem isLeaving_of_ne (ne : id ≠ other) : (left other).isLeaving id = false :=
  decide_eq_false ne

theorem registration?_self : (registered id e).registration? id = some e :=
  if_pos rfl

theorem registration?_of_ne (ne : id ≠ other) :
    (registered other e).registration? id = none :=
  if_neg ne

end

end Change

/-- A node joined at an instant, as it was specified, and these changes came
since: it has neither joined again nor left. -/
abbrev Joined (id : UInt32) (changes : List Change) (now : Instant) (spec : NodeSpec)
    (later : List Change) : Prop :=
  Stands (Change.joining? id) (Change.isLeaving id) changes (now, spec) later

/-- The latest joining of a node and the changes since, unless the node left
since. -/
def membership? (id : UInt32) (changes : List Change) :
    Option ((Instant × NodeSpec) × List Change) :=
  standing? (Change.joining? id) (Change.isLeaving id) changes

theorem membership?_eq_some_iff {id : UInt32} {changes later : List Change} {now : Instant}
    {spec : NodeSpec} :
    membership? id changes = some ((now, spec), later) ↔ Joined id changes now spec later :=
  standing?_eq_some_iff

/-- The latest endpoint of a node that joined: the one registered last, or else
the one that it brought. -/
def latestEndpoint? (id : UInt32) (spec : NodeSpec) (changes : List Change) :
    Option Endpoint :=
  ((lastMatch? (Change.registration? id) changes).map Prod.fst).or spec.endpoint

/-- The member that a node became when it joined last, if it is one. -/
def memberOf? (id : UInt32) (changes : List Change) : Option Member :=
  (membership? id changes).map fun ((now, spec), _) => spec.enroll now

/-- The endpoint of a node, if it is a member that has one. -/
def endpointOf? (id : UInt32) (changes : List Change) : Option Endpoint :=
  (membership? id changes).bind fun ((_, spec), later) => latestEndpoint? id spec later

theorem endpointOf?_eq_none_of_memberOf? {id : UInt32} {changes : List Change}
    (stranger : memberOf? id changes = none) : endpointOf? id changes = none := by
  rw [endpointOf?, Option.map_eq_none_iff.mp stranger]
  rfl

/-! ## One more change -/

theorem latestEndpoint?_append_of_none {id : UInt32} {spec : NodeSpec}
    {changes : List Change} {change : Change} (other : change.registration? id = none) :
    latestEndpoint? id spec (changes ++ [change]) = latestEndpoint? id spec changes := by
  rw [latestEndpoint?, lastMatch?_append_singleton, other, latestEndpoint?]
  cases lastMatch? (Change.registration? id) changes <;> rfl

/-- A change that is not about a node leaves its membership and its endpoint. -/
private theorem of_append_other {id : UInt32} {changes : List Change} {change : Change}
    (noJoining : change.joining? id = none) (noLeaving : change.isLeaving id = false)
    (noRegistration : change.registration? id = none) :
    memberOf? id (changes ++ [change]) = memberOf? id changes ∧
      endpointOf? id (changes ++ [change]) = endpointOf? id changes := by
  rw [memberOf?, memberOf?, endpointOf?, endpointOf?, membership?, membership?,
    standing?_append_other noJoining noLeaving]
  cases standing? (Change.joining? id) (Change.isLeaving id) changes with
  | none => exact ⟨rfl, rfl⟩
  | some found => exact ⟨rfl, latestEndpoint?_append_of_none noRegistration⟩

theorem memberOf?_append_joined (id : UInt32) (changes : List Change) (now : Instant)
    (spec : NodeSpec) :
    memberOf? id (changes ++ [.joined now spec]) =
      if id = spec.nodeId then some (spec.enroll now) else memberOf? id changes := by
  by_cases own : id = spec.nodeId
  · subst own
    rw [memberOf?, membership?, standing?_append_begin Change.joining?_self, if_pos rfl]
    rfl
  · rw [if_neg own]
    exact (of_append_other (Change.joining?_of_ne own) rfl rfl).1

/-- A node that joins has the endpoint that it brings, whatever it had before. -/
theorem endpointOf?_append_joined (id : UInt32) (changes : List Change) (now : Instant)
    (spec : NodeSpec) :
    endpointOf? id (changes ++ [.joined now spec]) =
      if id = spec.nodeId then spec.endpoint else endpointOf? id changes := by
  by_cases own : id = spec.nodeId
  · subst own
    rw [endpointOf?, membership?, standing?_append_begin Change.joining?_self, if_pos rfl]
    rfl
  · rw [if_neg own]
    exact (of_append_other (Change.joining?_of_ne own) rfl rfl).2

theorem memberOf?_append_left (id gone : UInt32) (changes : List Change) :
    memberOf? id (changes ++ [.left gone]) =
      if id = gone then none else memberOf? id changes := by
  by_cases own : id = gone
  · subst own
    rw [memberOf?, membership?, standing?_append_end rfl Change.isLeaving_self, if_pos rfl]
    rfl
  · rw [if_neg own]
    exact (of_append_other rfl (Change.isLeaving_of_ne own) rfl).1

theorem endpointOf?_append_left (id gone : UInt32) (changes : List Change) :
    endpointOf? id (changes ++ [.left gone]) =
      if id = gone then none else endpointOf? id changes := by
  by_cases own : id = gone
  · subst own
    rw [endpointOf?, membership?, standing?_append_end rfl Change.isLeaving_self, if_pos rfl]
    rfl
  · rw [if_neg own]
    exact (of_append_other rfl (Change.isLeaving_of_ne own) rfl).2

theorem memberOf?_append_registered (id other : UInt32) (e : Endpoint)
    (changes : List Change) :
    memberOf? id (changes ++ [.registered other e]) = memberOf? id changes := by
  rw [memberOf?, memberOf?, membership?, membership?, standing?_append_other rfl rfl]
  cases standing? (Change.joining? id) (Change.isLeaving id) changes <;> rfl

/-- A member has the endpoint that was registered for it last. -/
theorem endpointOf?_append_registered (id other : UInt32) (e : Endpoint)
    {changes : List Change} (present : ∃ m, memberOf? other changes = some m) :
    endpointOf? id (changes ++ [.registered other e]) =
      if id = other then some e else endpointOf? id changes := by
  by_cases own : id = other
  · subst own
    obtain ⟨m, found⟩ := present
    obtain ⟨⟨⟨now, spec⟩, later⟩, standing, -⟩ := Option.map_eq_some_iff.mp found
    rw [membership?] at standing
    rw [endpointOf?, membership?, standing?_append_other rfl rfl, standing, if_pos rfl]
    change latestEndpoint? id spec (later ++ [.registered id e]) = some e
    rw [latestEndpoint?, lastMatch?_append_singleton, Change.registration?_self]
    rfl
  · rw [if_neg own]
    exact (of_append_other rfl rfl (Change.registration?_of_ne own)).2

end ControlPlane
