import ControlPlane.Proofs.Registry.Coherence
import ControlPlane.Proofs.Registry.History

/-!
# The registry answers what its history says

The registry keeps two tables and changes them in place; a history keeps
everything and is searched.  A registry reflects a history if its tables hold
what the searches find.  Each step adds one entry to the history and keeps the
two together, so that after a whole run every answer can be read off the calls
that were made.
-/

namespace ControlPlane

open ControlPlane.Time (Instant)

namespace Cluster

/-- The tables of a cluster hold what its name and its changes say. -/
structure Reflects (c : Cluster) (name : String) (changes : List Change) : Prop where
  name_eq : c.name = name
  members : ∀ id, c.members.get? id = memberOf? id changes
  endpoints : ∀ id, c.endpoints.get? id = endpointOf? id changes

theorem reflects_new (name : String) (now : Instant) : (new name now).Reflects name [] where
  name_eq := rfl
  members _ := rfl
  endpoints _ := rfl

variable {c : Cluster} {name : String} {changes : List Change}

/-- A node that is no member has no endpoint that its joining could inherit. -/
theorem Reflects.enroll (reflects : c.Reflects name changes) (now : Instant)
    {spec : NodeSpec} (absent : c.members.get? spec.nodeId = none) :
    (c.enroll now spec).Reflects name (changes ++ [.joined now spec]) where
  name_eq := by rw [name_enroll, reflects.name_eq]
  members id := by rw [get?_members_enroll, memberOf?_append_joined, reflects.members]
  endpoints id := by
    rw [get?_endpoints_enroll, endpointOf?_append_joined]
    by_cases own : id = spec.nodeId
    · subst own
      rw [reflects.members] at absent
      rw [if_pos rfl, if_pos rfl, reflects.endpoints,
        endpointOf?_eq_none_of_memberOf? absent, Option.or_none]
    · rw [if_neg own, if_neg own, reflects.endpoints]

/-- Distinct nodes that are no members may join one after another. -/
theorem Reflects.foldl_enroll (reflects : c.Reflects name changes) (now : Instant)
    {nodes : List NodeSpec} (distinct : (nodes.map (·.nodeId)).Nodup)
    (absent : ∀ spec ∈ nodes, c.members.get? spec.nodeId = none) :
    (nodes.foldl (Cluster.enroll now) c).Reflects name (changes ++ nodes.map (.joined now)) := by
  induction nodes generalizing c changes with
  | nil => simpa using reflects
  | cons first rest ih =>
      have joined := reflects.enroll now (absent first List.mem_cons_self)
      have all := ih joined (List.nodup_cons.mp distinct).2
        (absent_of_nodup_cons now distinct absent)
      rwa [List.append_assoc] at all

theorem Reflects.leave (reflects : c.Reflects name changes) (id : UInt32) :
    (c.leave id).Reflects name (changes ++ [.left id]) where
  name_eq := reflects.name_eq
  members other := by rw [get?_members_leave, memberOf?_append_left, reflects.members]
  endpoints other := by
    rw [get?_endpoints_leave, endpointOf?_append_left, reflects.endpoints]

theorem Reflects.setEndpoint (reflects : c.Reflects name changes) {id : UInt32}
    (present : c.hasMember id = true) (e : Endpoint) :
    (c.setEndpoint id e).Reflects name (changes ++ [.registered id e]) where
  name_eq := reflects.name_eq
  members other := by rw [members_setEndpoint, memberOf?_append_registered, reflects.members]
  endpoints other := by
    obtain ⟨m, found⟩ := c.hasMember_eq_true_iff.mp present
    rw [reflects.members] at found
    rw [get?_endpoints_setEndpoint, endpointOf?_append_registered other id e ⟨m, found⟩,
      reflects.endpoints]

end Cluster

namespace Entry

/-- A call that failed, or a query, leaves nothing in the history. -/
theorem quiet_of_idle (now : Instant) (call : Call) (succeeded : Bool)
    (idle : succeeded = false ∨ call.isQuery = true) :
    founding? ⟨now, call, succeeded⟩ = none ∧ isDestruction ⟨now, call, succeeded⟩ = false ∧
      change? ⟨now, call, succeeded⟩ = none := by
  rcases idle with rfl | query
  · cases call <;> exact ⟨rfl, rfl, rfl⟩
  · cases call with
    | create | destroy | add | remove | register => contradiction
    | isActive | ensure | snapshot | node | nodes | endpoint | endpoints | metrics =>
        exact ⟨rfl, rfl, rfl⟩

end Entry

namespace Registry

/-- The registry holds the cluster that a history says is there. -/
def Reflects (r : Registry) (h : List Entry) : Prop :=
  match lifetime? h with
  | none => r.held = none
  | some (founding, calls) =>
      ∃ c, r.held = some c ∧ c.Reflects founding.name (founding.changes calls)

variable {r : Registry} {h : List Entry} {entry : Entry}

/-- A call that neither founds nor destroys a cluster does to the held one what
the entry says has changed. -/
private theorem Reflects.append_later (reflects : r.Reflects h) {r' : Registry}
    (noFounding : entry.founding? = none) (noDestruction : entry.isDestruction = false)
    (vacant : r.held = none → r'.held = none)
    (step : ∀ {c name changes}, r.held = some c → c.Reflects name changes →
      ∃ next, r'.held = some next ∧ next.Reflects name (changes ++ entry.change?.toList)) :
    r'.Reflects (h ++ [entry]) := by
  unfold Reflects lifetime? at reflects ⊢
  rw [standing?_append_other noFounding noDestruction]
  cases standing : standing? Entry.founding? Entry.isDestruction h with
  | none =>
      rw [standing] at reflects
      exact vacant reflects
  | some found =>
      obtain ⟨founding, calls⟩ := found
      rw [standing] at reflects
      obtain ⟨c, held, contents⟩ := reflects
      obtain ⟨next, heldNext, contentsNext⟩ := step held contents
      refine ⟨next, heldNext, ?_⟩
      rw [Founding.changes_append_singleton]
      exact contentsNext

/-- A call that leaves the registry and the history's contents alone. -/
theorem Reflects.append_quiet (reflects : r.Reflects h) (noFounding : entry.founding? = none)
    (noDestruction : entry.isDestruction = false) (noChange : entry.change? = none) :
    r.Reflects (h ++ [entry]) := by
  apply reflects.append_later noFounding noDestruction id
  intro c name changes held contents
  rw [noChange]
  exact ⟨c, held, by simpa using contents⟩

/-- A call that changes one thing about the nodes, in the registry as in the
history. -/
theorem Reflects.append_change (reflects : r.Reflects h) {c next : Cluster} {change : Change}
    (held : r.held = some c) (noFounding : entry.founding? = none)
    (noDestruction : entry.isDestruction = false) (changed : entry.change? = some change)
    (step : ∀ {name changes}, c.Reflects name changes →
      next.Reflects name (changes ++ [change])) :
    Reflects ⟨some next⟩ (h ++ [entry]) := by
  apply reflects.append_later noFounding noDestruction
  · intro free
    rw [held] at free
    contradiction
  · intro d name changes heldAlso contents
    obtain rfl := Option.some.inj (held.symm.trans heldAlso)
    rw [changed]
    exact ⟨next, rfl, step contents⟩

/-- One step keeps the registry and the history together. -/
theorem Reflects.step (reflects : r.Reflects h) {now : Instant} {call : Call}
    {failure : Option Error} {r' : Registry} (step : Step now r call failure r') :
    r'.Reflects (h ++ [⟨now, call, failure.isNone⟩]) := by
  cases step with
  | @created name nodes free distinct =>
      have founded : Entry.founding? ⟨now, .create name nodes, (none : Option Error).isNone⟩ =
          some ⟨now, name, nodes⟩ := rfl
      unfold Reflects lifetime?
      rw [standing?_append_begin founded]
      have joined := (Cluster.reflects_new name now).foldl_enroll now distinct
        fun spec _ => Cluster.get?_members_new name now spec.nodeId
      refine ⟨_, rfl, ?_⟩
      simpa [Founding.changes] using joined
  | destroyed held =>
      unfold Reflects lifetime?
      rw [standing?_append_end rfl rfl]
  | joined held absent =>
      exact reflects.append_change held rfl rfl rfl fun contents => contents.enroll now absent
  | left held present =>
      exact reflects.append_change held rfl rfl rfl fun contents => contents.leave _
  | registered held present =>
      exact reflects.append_change held rfl rfl rfl fun contents =>
        contents.setEndpoint present _
  | answered query =>
      obtain ⟨noFounding, noDestruction, noChange⟩ :=
        Entry.quiet_of_idle now _ true (.inr query)
      exact reflects.append_quiet noFounding noDestruction noChange
  | refused reason =>
      obtain ⟨noFounding, noDestruction, noChange⟩ :=
        Entry.quiet_of_idle now call false (.inl rfl)
      exact reflects.append_quiet noFounding noDestruction noChange

theorem Reflects.runAll (reflects : r.Reflects h) (calls : List (Instant × Call)) :
    (r.runAll calls).Reflects (h ++ r.history calls) := by
  induction calls generalizing r h with
  | nil => simpa [history] using reflects
  | cons first rest ih =>
      obtain ⟨now, call⟩ := first
      have all := ih (reflects.step (step_run now r call))
      rwa [List.append_assoc] at all

/-- After any calls the registry reflects the calls that were made. -/
theorem reflects_history (calls : List (Instant × Call)) :
    (empty.runAll calls).Reflects (empty.history calls) :=
  Reflects.runAll (h := []) rfl calls

/-! ## Answers -/

/-- There is a cluster exactly if one was founded and not destroyed since. -/
theorem isActive_iff_of_reflects (reflects : r.Reflects h) :
    r.isActive = true ↔ ∃ founding calls, Founded h founding calls := by
  unfold Reflects at reflects
  constructor
  · intro active
    cases standing : lifetime? h with
    | none =>
        rw [standing] at reflects
        rw [isActive, reflects] at active
        contradiction
    | some found =>
        obtain ⟨founding, calls⟩ := found
        exact ⟨founding, calls, lifetime?_eq_some_iff.mp standing⟩
  · rintro ⟨founding, calls, founded⟩
    rw [lifetime?_eq_some_iff.mpr founded] at reflects
    obtain ⟨c, held, -⟩ := reflects
    rw [isActive, held]
    rfl

section

variable {c : Cluster} {name : String} {changes : List Change} {id : UInt32}

theorem nodeId_eq_of_joined {now : Instant} {spec : NodeSpec} {later : List Change}
    (joined : Joined id changes now spec later) : spec.nodeId = id := by
  obtain ⟨before, change, split, joins, quiet⟩ := joined
  cases change with
  | joined now' spec' =>
      by_cases own : id = spec'.nodeId
      · subst own
        rw [Change.joining?_self] at joins
        obtain ⟨rfl, rfl⟩ := Prod.mk.inj (Option.some.inj joins)
        rfl
      · rw [Change.joining?_of_ne own] at joins
        contradiction
  | left | registered => contradiction

/-- A node that joined and has not left is answered as it joined. -/
theorem node_of_joined (held : r.held = some c) (reflects : c.Reflects name changes)
    {now : Instant} {spec : NodeSpec} {later : List Change}
    (joined : Joined id changes now spec later) : r.node id = .ok (spec.enroll now) := by
  rw [node_of_held held, reflects.members, memberOf?, membership?_eq_some_iff.mpr joined]
  rfl

/-- Its endpoint is the one registered last since then, or the one it brought. -/
theorem endpoint_of_joined (held : r.held = some c) (reflects : c.Reflects name changes)
    {now : Instant} {spec : NodeSpec} {later : List Change}
    (joined : Joined id changes now spec later) :
    r.endpoint id = match latestEndpoint? id spec later with
      | some e => .ok e
      | none => .error (.endpointNotFound id) := by
  have membership := membership?_eq_some_iff.mpr joined
  have found := reflects.members id
  rw [memberOf?, membership] at found
  rw [endpoint_of_member held found, reflects.endpoints, endpointOf?, membership]
  rfl

/-- A node that never joined, or left since, is not found. -/
theorem not_found_of_not_joined (held : r.held = some c) (reflects : c.Reflects name changes)
    (stranger : ¬∃ now spec later, Joined id changes now spec later) :
    r.node id = .error (.nodeNotFound id) ∧ r.endpoint id = .error (.nodeNotFound id) := by
  have absent : c.members.get? id = none := by
    rw [reflects.members, memberOf?, Option.map_eq_none_iff, Option.eq_none_iff_forall_ne_some]
    rintro ⟨⟨now, spec⟩, later⟩ membership
    exact stranger ⟨now, spec, later, membership?_eq_some_iff.mp membership⟩
  constructor
  · rw [node_of_held held, absent]
  · exact endpoint_of_stranger held absent

end

/-- The calls that were made determine every answer.  There is a cluster exactly
if one was founded and not destroyed since, and it has the name it was founded
with.  A node that joined and has not left since is answered with the fields that
it joined with, and its endpoint is the one registered last since then, or else
the one it brought; other nodes are not found.  The listings hold these members
and these endpoints and nothing else. -/
theorem answers_eq_history (calls : List (Instant × Call)) :
    let r := empty.runAll calls
    let h := empty.history calls
    (r.isActive = true ↔ ∃ founding since, Founded h founding since) ∧
    ∀ founding since, Founded h founding since →
      let changes := founding.changes since
      r.snapshot.map (·.name) = .ok founding.name ∧
      (∀ id now spec later, Joined id changes now spec later →
        r.node id = .ok
          { nodeId := id
            hostname := spec.hostname
            ipAddress := spec.ipAddress
            rdmaGid := spec.rdmaGid
            cpuCount := spec.cpuCount
            memoryMb := spec.memoryMb
            status := spec.status.getD .joining
            joinedAt := now } ∧
        r.endpoint id =
          match ((lastMatch? (Change.registration? id) later).map Prod.fst).or
            spec.endpoint with
          | some e => .ok e
          | none => .error (.endpointNotFound id)) ∧
      (∀ id, (¬∃ now spec later, Joined id changes now spec later) →
        r.node id = .error (.nodeNotFound id) ∧
          r.endpoint id = .error (.nodeNotFound id)) ∧
      (∃ members, r.nodes = .ok members ∧ (members.map (·.nodeId)).Pairwise (· < ·) ∧
        ∀ m, m ∈ members ↔ ∃ id, r.node id = .ok m) ∧
      ∃ directory, r.endpoints = .ok directory ∧ directory.clusterName = founding.name ∧
        directory.endpoints.ids.Pairwise (· < ·) ∧
        ∀ id e, (id, e) ∈ directory.endpoints.entries ↔ r.endpoint id = .ok e := by
  intro r h
  have reflects : r.Reflects h := reflects_history calls
  refine ⟨isActive_iff_of_reflects reflects, fun founding since founded => ?_⟩
  unfold Reflects at reflects
  rw [lifetime?_eq_some_iff.mpr founded] at reflects
  obtain ⟨c, held, contents⟩ := reflects
  have coherent : c.Coherent := coherent_empty.runAll calls c held
  refine ⟨?_, ?_, fun id stranger => not_found_of_not_joined held contents stranger, ?_, ?_⟩
  · rw [snapshot, map_require_of_held held]
    exact congrArg Except.ok contents.name_eq
  · intro id now spec later joined
    obtain rfl := nodeId_eq_of_joined joined
    exact ⟨node_of_joined held contents joined, endpoint_of_joined held contents joined⟩
  · refine ⟨c.members.values, nodes_of_held held, ?_, fun m => ?_⟩
    · rw [coherent.map_nodeId_values]
      exact c.members.ascending_ids
    · simp [IdMap.mem_values_iff, node_eq_ok_iff, held]
  · refine ⟨c.directory, endpoints_of_held held, contents.name_eq, c.endpoints.ascending_ids,
      fun id e => ?_⟩
    change (id, e) ∈ c.endpoints.entries ↔ _
    rw [← c.endpoints.get?_eq_some_iff, endpoint_eq_ok_iff]
    constructor
    · intro registered
      have present : c.hasMember id = true :=
        coherent.hasMember_of_endpoint id (c.endpoints.contains_eq_true_iff.mpr ⟨e, registered⟩)
      exact ⟨c, held, present, registered⟩
    · rintro ⟨d, heldAlso, -, registered⟩
      obtain rfl := Option.some.inj (held.symm.trans heldAlso)
      exact registered

end Registry

end ControlPlane
