import ControlPlane.Proofs.Registry.Departure

/-!
# What commands do to one node

A coherent cluster keeps a member and perhaps an endpoint about a node that is a
member, and nothing about any other node.  A command that is about one node
changes what is kept about that node, and the change depends on nothing else
(`Call.act`).  What is kept about a node after a run is therefore decided by the
commands about that node alone, in their order (`runAll_enrolment?`).
-/

namespace ControlPlane

open ControlPlane.Time (Instant)

/-- What is kept about a member. -/
structure Enrolment where
  member : Member
  endpoint? : Option Endpoint

namespace Cluster

/-- What a cluster keeps about a node. -/
def enrolment? (c : Cluster) (id : UInt32) : Option Enrolment :=
  (c.members.get? id).map fun m => ⟨m, c.endpoints.get? id⟩

variable {c d : Cluster} {id : UInt32}

theorem enrolment?_of_absent (absent : c.members.get? id = none) : c.enrolment? id = none := by
  rw [enrolment?, absent, Option.map_none]

theorem enrolment?_of_member {m : Member} (found : c.members.get? id = some m) :
    c.enrolment? id = some ⟨m, c.endpoints.get? id⟩ := by
  rw [enrolment?, found, Option.map_some]

theorem map_member_enrolment? (c : Cluster) (id : UInt32) :
    (c.enrolment? id).map (·.member) = c.members.get? id := by
  rw [enrolment?, Option.map_map]
  exact Option.map_id'

/-- Something is kept about the members. -/
theorem mem_ids_iff_enrolment? : id ∈ c.members.ids ↔ (c.enrolment? id).isSome = true := by
  rw [IdMap.mem_ids_iff, enrolment?, Option.isSome_map]
  rfl

/-- A coherent cluster keeps no endpoint apart from its enrolments. -/
theorem Coherent.bind_enrolment? (coherent : c.Coherent) (id : UInt32) :
    (c.enrolment? id).bind (·.endpoint?) = c.endpoints.get? id := by
  cases found : c.members.get? id with
  | none => rw [enrolment?_of_absent found, coherent.endpoint_of_absent found, Option.bind_none]
  | some m => rw [enrolment?_of_member found, Option.bind_some]

/-- Coherent clusters of the same name and the same age are equal if they keep the
same about every node. -/
theorem Coherent.ext_enrolment? (coherent : c.Coherent) (coherentToo : d.Coherent)
    (name : c.name = d.name) (createdAt : c.createdAt = d.createdAt)
    (same : ∀ id, c.enrolment? id = d.enrolment? id) : c = d := by
  have members : c.members = d.members := by
    apply IdMap.ext_get?
    intro id
    rw [← map_member_enrolment?, same, map_member_enrolment?]
  have endpoints : c.endpoints = d.endpoints := by
    apply IdMap.ext_get?
    intro id
    rw [← coherent.bind_enrolment?, same, coherentToo.bind_enrolment?]
  obtain ⟨_, _, _, _⟩ := c
  obtain ⟨_, _, _, _⟩ := d
  simp only [mk.injEq]
  exact ⟨name, createdAt, members, endpoints⟩

/-! ## Enrolments after operations -/

@[simp]
theorem createdAt_enroll (now : Instant) (c : Cluster) (spec : NodeSpec) :
    (c.enroll now spec).createdAt = c.createdAt := by
  rcases spec with ⟨_, _, _, _, _, _, _, _ | _⟩ <;> rfl

theorem Coherent.enrolment?_enroll (coherent : c.Coherent) (now : Instant) {spec : NodeSpec}
    (absent : c.members.get? spec.nodeId = none) (id : UInt32) :
    (c.enroll now spec).enrolment? id =
      if id = spec.nodeId then some ⟨spec.enroll now, spec.endpoint⟩ else c.enrolment? id := by
  rw [enrolment?, get?_members_enroll, get?_endpoints_enroll]
  by_cases own : id = spec.nodeId
  · subst own
    simp [coherent.endpoint_of_absent absent]
  · simp only [if_neg own, enrolment?]

theorem enrolment?_leave (c : Cluster) (id other : UInt32) :
    (c.leave id).enrolment? other = if other = id then none else c.enrolment? other := by
  rw [enrolment?, get?_members_leave, get?_endpoints_leave]
  by_cases own : other = id
  · simp only [if_pos own, Option.map_none]
  · simp only [if_neg own, enrolment?]

theorem enrolment?_setEndpoint {m : Member} (found : c.members.get? id = some m) (e : Endpoint)
    (other : UInt32) :
    (c.setEndpoint id e).enrolment? other =
      if other = id then some ⟨m, some e⟩ else c.enrolment? other := by
  rw [enrolment?, members_setEndpoint, get?_endpoints_setEndpoint]
  by_cases own : other = id
  · simp only [own, found, if_true, Option.map_some]
  · simp only [if_neg own, enrolment?]

end Cluster

/-! ## Commands about one node -/

namespace Call

/-- The node that a command is about.  Queries and the commands about the whole
cluster are about none. -/
def target? : Call → Option UInt32
  | add spec => some spec.nodeId
  | remove id | register id _ => some id
  | create .. | destroy | isActive | ensure | snapshot | node _ | nodes | endpoint _
  | endpoints | metrics => none

theorem target?_of_query {call : Call} (query : call.isQuery = true) : call.target? = none := by
  cases call with
  | create | destroy | add | remove | register => contradiction
  | isActive | ensure | snapshot | node | nodes | endpoint | endpoints | metrics => rfl

theorem isNodeLevel_of_target? {call : Call} {id : UInt32} (target : call.target? = some id) :
    call.isNodeLevel = true := by
  cases call with
  | create | destroy => contradiction
  | add | remove | register | isActive | ensure | snapshot | node | nodes | endpoint | endpoints
  | metrics => rfl

/-- What a command makes of what is kept about the node that it is about. -/
def act (now : Instant) : Call → Option Enrolment → Option Enrolment
  | add spec, none => some ⟨spec.enroll now, spec.endpoint⟩
  | remove _, some _ => none
  | register _ e, some kept => some { kept with endpoint? := some e }
  | _, kept => kept

end Call

namespace Registry

variable {now : Instant} {r r' : Registry} {c : Cluster} {call : Call} {id : UInt32}

/-- A command that is refused would make nothing else of what is kept. -/
theorem act_of_refused {e : Error} (reason : Refused (some c) call e)
    (target : call.target? = some id) : call.act now (c.enrolment? id) = c.enrolment? id := by
  cases reason with
  | occupied | unregistered => contradiction
  | taken present =>
      obtain rfl := Option.some.inj target
      obtain ⟨m, found⟩ := c.hasMember_eq_true_iff.mp present
      rw [Cluster.enrolment?_of_member found]
      rfl
  | stranger subject absent =>
      cases call with
      | remove other | register other e =>
          obtain rfl := Option.some.inj (subject.symm.trans target)
          obtain rfl := Option.some.inj subject
          rw [Cluster.enrolment?_of_absent (c.hasMember_eq_false_iff.mp absent)]
          rfl
      | add => contradiction
      | create | destroy | isActive | ensure | snapshot | node | nodes | endpoint | endpoints
      | metrics => contradiction

/-- A call on the nodes of the cluster does to the node that it is about what it does,
and nothing else. -/
theorem Step.enrolment? {failure : Option Error} (step : Step now r call failure r')
    (coherent : r.Coherent) (held : r.held = some c) (nodeLevel : call.isNodeLevel = true) :
    ∃ d, r'.held = some d ∧ d.name = c.name ∧ d.createdAt = c.createdAt ∧
      (∀ id, call.target? = some id → d.enrolment? id = call.act now (c.enrolment? id)) ∧
      ∀ id, call.target? ≠ some id → d.enrolment? id = c.enrolment? id := by
  cases step with
  | created | destroyed => contradiction
  | @joined c' spec heldAlso absent =>
      obtain rfl := Option.some.inj (held.symm.trans heldAlso)
      have joined := (coherent c held).enrolment?_enroll now absent
      refine ⟨c.enroll now spec, rfl, c.name_enroll now spec, c.createdAt_enroll now spec, ?_, ?_⟩
      · intro id target
        obtain rfl := Option.some.inj target
        rw [joined, if_pos rfl, Cluster.enrolment?_of_absent absent]
        rfl
      · intro id other
        rw [joined, if_neg fun own => other (congrArg some own.symm)]
  | @left c' gone heldAlso present =>
      obtain rfl := Option.some.inj (held.symm.trans heldAlso)
      obtain ⟨m, found⟩ := c.hasMember_eq_true_iff.mp present
      refine ⟨c.leave gone, rfl, rfl, rfl, ?_, ?_⟩
      · intro id target
        obtain rfl := Option.some.inj target
        rw [c.enrolment?_leave, if_pos rfl, Cluster.enrolment?_of_member found]
        rfl
      · intro id other
        rw [c.enrolment?_leave, if_neg fun own => other (congrArg some own.symm)]
  | @registered c' own e heldAlso present =>
      obtain rfl := Option.some.inj (held.symm.trans heldAlso)
      obtain ⟨m, found⟩ := c.hasMember_eq_true_iff.mp present
      refine ⟨c.setEndpoint own e, rfl, rfl, rfl, ?_, ?_⟩
      · intro id target
        obtain rfl := Option.some.inj target
        rw [Cluster.enrolment?_setEndpoint found, if_pos rfl, Cluster.enrolment?_of_member found]
        rfl
      · intro id other
        rw [Cluster.enrolment?_setEndpoint found, if_neg fun own => other (congrArg some own.symm)]
  | answered query =>
      refine ⟨c, held, rfl, rfl, fun id target => ?_, fun id _ => rfl⟩
      rw [Call.target?_of_query query] at target
      contradiction
  | refused reason =>
      rw [held] at reason
      exact ⟨c, held, rfl, rfl, fun id target => (act_of_refused reason target).symm,
        fun id _ => rfl⟩

/-- Without a cluster, calls on its nodes change nothing. -/
theorem Step.eq_of_free {failure : Option Error} (step : Step now r call failure r')
    (free : r.held = none) (nodeLevel : call.isNodeLevel = true) : r' = r := by
  cases step with
  | created | destroyed => contradiction
  | joined held | left held | registered held =>
      rw [free] at held
      contradiction
  | answered | refused => rfl

/-! ## Runs -/

/-- The calls of a run that are about a node. -/
def about (id : UInt32) (calls : List (Instant × Call)) : List (Instant × Call) :=
  calls.filter fun entry => entry.2.target? = some id

section

variable (now : Instant) (rest : List (Instant × Call))

theorem about_cons_of_target (target : call.target? = some id) :
    about id ((now, call) :: rest) = (now, call) :: about id rest := by
  simp [about, target]

theorem about_cons_of_other (other : call.target? ≠ some id) :
    about id ((now, call) :: rest) = about id rest := by
  simp [about, other]

end

/-- What commands about a node make, one after another, of what is kept about it. -/
def actAll (kept : Option Enrolment) (calls : List (Instant × Call)) : Option Enrolment :=
  calls.foldl (fun kept (now, call) => call.act now kept) kept

/-- What is kept about a node after a run of calls on the nodes of a cluster is decided by
the commands about that node. -/
theorem runAll_enrolment? (coherent : r.Coherent) (held : r.held = some c)
    {calls : List (Instant × Call)} (nodeLevel : ∀ entry ∈ calls, entry.2.isNodeLevel = true) :
    ∃ d, (r.runAll calls).held = some d ∧ d.name = c.name ∧ d.createdAt = c.createdAt ∧
      ∀ id, d.enrolment? id = actAll (c.enrolment? id) (about id calls) := by
  induction calls generalizing r c with
  | nil => exact ⟨c, held, rfl, rfl, fun id => rfl⟩
  | cons first rest ih =>
      obtain ⟨now, call⟩ := first
      obtain ⟨next, heldNext, name, createdAt, changed, spared⟩ :=
        (step_run now r call).enrolment? coherent held (nodeLevel _ List.mem_cons_self)
      obtain ⟨d, heldLast, nameLast, createdAtLast, kept⟩ := ih (coherent.run now call) heldNext
        fun entry entryMem => nodeLevel entry (List.mem_cons_of_mem _ entryMem)
      refine ⟨d, heldLast, nameLast.trans name, createdAtLast.trans createdAt, fun id => ?_⟩
      by_cases own : call.target? = some id
      · rw [kept, changed id own, about_cons_of_target now rest own]
        rfl
      · rw [kept, spared id own, about_cons_of_other now rest own]

/-- Without a cluster, a run of calls on its nodes changes nothing. -/
theorem runAll_of_free (free : r.held = none) {calls : List (Instant × Call)}
    (nodeLevel : ∀ entry ∈ calls, entry.2.isNodeLevel = true) : r.runAll calls = r := by
  induction calls with
  | nil => rfl
  | cons first rest ih =>
      obtain ⟨now, call⟩ := first
      rw [runAll_cons, (step_run now r call).eq_of_free free (nodeLevel _ List.mem_cons_self)]
      exact ih fun entry entryMem => nodeLevel entry (List.mem_cons_of_mem _ entryMem)

end Registry

end ControlPlane
