import ControlPlane.Proofs.Cluster.Lookup
import ControlPlane.Proofs.Registry.Step

/-!
# Registries apart from their instants

A cluster remembers when it was created and a member when it joined; nothing else
depends on when a call is made.  `undated` puts the epoch in place of all these
instants, so that registries and answers are alike apart from their instants if
they are equal once undated.  Undating a call that was made is making the call at
the epoch: hence the same calls made at other instants lead to registries that
are alike, and have answers that are alike.
-/

namespace ControlPlane

open ControlPlane.Time (Instant)

namespace IdMap

variable {α β : Type}

/-- The table with all values changed in the same way. -/
def map (f : α → β) (m : IdMap α) : IdMap β where
  entries := m.entries.map fun entry => (entry.1, f entry.2)
  ascending := List.pairwise_map.mpr m.ascending

variable (f : α → β) (m : IdMap α)

private theorem lookupEntry_map (id : UInt32) (entries : List (UInt32 × α)) :
    lookupEntry id (entries.map fun entry => (entry.1, f entry.2)) =
      (lookupEntry id entries).map f := by
  induction entries with
  | nil => rfl
  | cons first rest ih =>
      obtain ⟨key, x⟩ := first
      by_cases own : id = key
      · simp [lookupEntry, own]
      · simpa [lookupEntry, own] using ih

theorem get?_map (id : UInt32) : (m.map f).get? id = (m.get? id).map f :=
  lookupEntry_map f id m.entries

theorem values_map : (m.map f).values = m.values.map f := by
  simp [values, map]

@[simp]
theorem size_map : (m.map f).size = m.size := by
  simp [size, map]

@[simp]
theorem contains_map (id : UInt32) : (m.map f).contains id = m.contains id := by
  simp [contains, get?_map]

theorem map_insert (id : UInt32) (x : α) :
    (m.insert id x).map f = (m.map f).insert id (f x) := by
  apply ext_get?
  intro other
  rw [get?_map, get?_insert, get?_insert, get?_map]
  split <;> rfl

theorem map_erase (id : UInt32) : (m.erase id).map f = (m.map f).erase id := by
  apply ext_get?
  intro other
  rw [get?_map, get?_erase, get?_erase, get?_map]
  split <;> rfl

end IdMap

/-! ## Undated clusters -/

/-- A member that joined at the epoch. -/
def Member.undated (m : Member) : Member :=
  { m with joinedAt := .epoch }

@[simp]
theorem NodeSpec.undated_enroll (spec : NodeSpec) (now : Instant) :
    (spec.enroll now).undated = spec.enroll .epoch :=
  rfl

namespace Cluster

/-- A cluster that was created at the epoch, and whose members joined then. -/
def undated (c : Cluster) : Cluster :=
  { c with createdAt := .epoch, members := c.members.map Member.undated }

/-- Clusters are alike apart from instants if they have the same name, the same
endpoints, and members that are alike. -/
theorem undated_eq_undated_iff {c d : Cluster} :
    d.undated = c.undated ↔ d.name = c.name ∧
      d.members.map Member.undated = c.members.map Member.undated ∧
      d.endpoints = c.endpoints := by
  simp [undated]

variable (c : Cluster)

@[simp]
theorem hasMember_undated (id : UInt32) : c.undated.hasMember id = c.hasMember id :=
  c.members.contains_map _ id

@[simp]
theorem undated_new (name : String) (now : Instant) :
    (new name now).undated = new name .epoch :=
  rfl

@[simp]
theorem undated_enroll (now : Instant) (spec : NodeSpec) :
    (c.enroll now spec).undated = c.undated.enroll .epoch spec := by
  have joined : (c.members.insert spec.nodeId (spec.enroll now)).map Member.undated =
      (c.members.map Member.undated).insert spec.nodeId (spec.enroll .epoch) :=
    c.members.map_insert Member.undated spec.nodeId _
  unfold enroll join undated
  cases spec.endpoint with
  | none => simp [joined]
  | some e => simp [setEndpoint, joined]

/-- Nodes that join one after another, each at its own instant. -/
theorem undated_foldl_enroll (now : Instant) (nodes : List NodeSpec) :
    (nodes.foldl (enroll now) c).undated = nodes.foldl (enroll .epoch) c.undated := by
  induction nodes generalizing c with
  | nil => rfl
  | cons spec rest ih => rw [List.foldl_cons, ih, undated_enroll, List.foldl_cons]

@[simp]
theorem undated_leave (id : UInt32) : (c.leave id).undated = c.undated.leave id := by
  simp [leave, undated, IdMap.map_erase]

@[simp]
theorem undated_setEndpoint (id : UInt32) (e : Endpoint) :
    (c.setEndpoint id e).undated = c.undated.setEndpoint id e :=
  rfl

/-! ### Figures -/

@[simp]
theorem size_members_undated : c.undated.members.size = c.members.size :=
  c.members.size_map _

theorem activeMembers_undated :
    c.undated.activeMembers = c.activeMembers.map Member.undated := by
  rw [activeMembers, undated, IdMap.values_map, List.filter_map]
  rfl

theorem total_map_undated (amount : Member → UInt64)
    (dateless : ∀ m, amount m.undated = amount m) (members : List Member) :
    total amount (members.map Member.undated) = total amount members := by
  induction members with
  | nil => rfl
  | cons m rest ih => rw [List.map_cons, total, ih, dateless, total]

@[simp]
theorem totalMemoryMb_undated : c.undated.totalMemoryMb = c.totalMemoryMb := by
  rw [totalMemoryMb, activeMembers_undated, total_map_undated _ fun _ => rfl, totalMemoryMb]

@[simp]
theorem totalVcpus_undated : c.undated.totalVcpus = c.totalVcpus := by
  rw [totalVcpus, activeMembers_undated, total_map_undated _ fun _ => rfl, totalVcpus]

@[simp]
theorem summary_undated : c.undated.summary = c.summary := by
  rw [summary, size_members_undated, totalMemoryMb_undated, totalVcpus_undated]
  rfl

@[simp]
theorem metrics_undated : c.undated.metrics = c.metrics := by
  rw [metrics, size_members_undated, activeMembers_undated, List.length_map,
    totalMemoryMb_undated, totalVcpus_undated]
  rfl

end Cluster

/-! ## Undated answers -/

/-- A snapshot of a cluster that was created at the epoch. -/
def ClusterSnapshot.undated (s : ClusterSnapshot) : ClusterSnapshot :=
  { s with createdAt := .epoch }

@[simp]
theorem Cluster.snapshot_undated (c : Cluster) : c.undated.snapshot = c.snapshot.undated := by
  rw [snapshot, size_members_undated, activeMembers_undated, List.length_map,
    totalMemoryMb_undated, totalVcpus_undated]
  rfl

/-- An answer with the epoch in place of the instants in it. -/
def Call.undated : (call : Call) → call.Answer → call.Answer
  | .snapshot, s => ClusterSnapshot.undated s
  | .node _, m => Member.undated m
  | .nodes, ms => List.map Member.undated ms
  | .create .., a | .destroy, a | .add .., a | .remove .., a | .register .., a
  | .isActive, a | .ensure, a | .endpoint .., a | .endpoints, a | .metrics, a => a

/-! ## Undated registries -/

/-- A registry whose cluster is undated. -/
def Registry.undated (r : Registry) : Registry :=
  ⟨r.held.map Cluster.undated⟩

/-- The outcome of a call with the epoch in place of the instants in it.  The log
has none. -/
def Outcome.undated (call : Call) (o : Outcome call.Answer) : Outcome call.Answer :=
  ⟨o.answer.map call.undated, o.registry.undated, o.events⟩

private theorem Outcome.undated_ok {call : Call} {answer answer' : call.Answer}
    {c c' : Cluster} {events events' : List Event} (answered : call.undated answer = answer')
    (left : c.undated = c') (logged : events = events') :
    Outcome.undated call ⟨.ok answer, ⟨some c⟩, events⟩ = ⟨.ok answer', ⟨some c'⟩, events'⟩ := by
  subst answered left logged
  rfl

namespace Registry

variable (now : Instant) (r : Registry)

private theorem undated_create (name : String) (nodes : List NodeSpec) :
    (r.create now name nodes).undated (.create name nodes) =
      r.undated.create .epoch name nodes := by
  obtain ⟨_ | c⟩ := r
  · unfold create
    cases firstRepeated [] (nodes.map (·.nodeId)) with
    | some id => rfl
    | none =>
        have founded := (Cluster.new name now).undated_foldl_enroll now nodes
        refine Outcome.undated_ok ?_ founded ?_
        · rw [Call.undated, ← Cluster.summary_undated, founded]
          rfl
        · rw [← Cluster.size_members_undated, ← Cluster.totalMemoryMb_undated, founded]
          rfl
  · rfl

private theorem undated_destroy : r.destroy.undated .destroy = r.undated.destroy := by
  obtain ⟨_ | c⟩ := r
  · rfl
  · have remainsEq : c.undated.remains = c.remains :=
      congrArg (ClusterDestroyed.mk c.name · _) c.size_members_undated
    simp only [destroy, undated, Option.map_some, remainsEq, Cluster.size_members_undated]
    rfl

private theorem undated_add (spec : NodeSpec) :
    (r.add now spec).undated (.add spec) = r.undated.add .epoch spec := by
  obtain ⟨_ | c⟩ := r
  · rfl
  · simp only [add, undated, Option.map_some, Cluster.hasMember_undated]
    split
    · rfl
    · refine Outcome.undated_ok ?_ (c.undated_enroll now spec) rfl
      rw [Call.undated, ← Cluster.size_members_undated, Cluster.undated_enroll]

private theorem undated_remove (id : UInt32) :
    (r.remove id).undated (.remove id) = r.undated.remove id := by
  obtain ⟨_ | c⟩ := r
  · rfl
  · have found : c.undated.members.get? id = (c.members.get? id).map Member.undated :=
      c.members.get?_map _ id
    simp only [remove, undated, Option.map_some, found]
    cases c.members.get? id with
    | none => rfl
    | some m =>
        refine Outcome.undated_ok ?_ (c.undated_leave id) rfl
        rw [Call.undated, ← Cluster.size_members_undated, Cluster.undated_leave]
        rfl

private theorem undated_register (id : UInt32) (e : Endpoint) :
    (r.register id e).undated (.register id e) = r.undated.register id e := by
  obtain ⟨_ | c⟩ := r
  · rfl
  · simp only [register, undated, Option.map_some, Cluster.hasMember_undated]
    split <;> rfl

private theorem undated_node (id : UInt32) :
    (r.node id).map Member.undated = r.undated.node id := by
  obtain ⟨_ | c⟩ := r
  · rfl
  · have found : c.undated.members.get? id = (c.members.get? id).map Member.undated :=
      c.members.get?_map _ id
    have heldUndated : (Registry.mk (some c)).undated.held = some c.undated := rfl
    rw [node_of_held rfl, node_of_held heldUndated, found]
    cases c.members.get? id <;> rfl

private theorem undated_endpoint (id : UInt32) : r.undated.endpoint id = r.endpoint id := by
  obtain ⟨_ | c⟩ := r
  · rfl
  · have heldUndated : (Registry.mk (some c)).undated.held = some c.undated := rfl
    simp only [endpoint, require_of_held heldUndated, require_of_held rfl]
    change (if !c.undated.hasMember id then _ else _) = _
    rw [Cluster.hasMember_undated]
    rfl

/-- A call made at any instant does, apart from instants, what it does when it is
made at the epoch. -/
theorem undated_run (call : Call) :
    (r.run now call).undated call = r.undated.run .epoch call := by
  cases call with
  | create name nodes => exact r.undated_create now name nodes
  | destroy => exact r.undated_destroy
  | add spec => exact r.undated_add now spec
  | remove id => exact r.undated_remove id
  | register id e => exact r.undated_register id e
  | node id => exact congrArg r.undated.answered (r.undated_node id)
  | endpoint id =>
      have same : (r.endpoint id).map (Call.endpoint id).undated = r.undated.endpoint id := by
        rw [r.undated_endpoint id]
        cases r.endpoint id <;> rfl
      exact congrArg r.undated.answered same
  | isActive | ensure | endpoints => obtain ⟨_ | c⟩ := r <;> rfl
  | snapshot =>
      obtain ⟨_ | c⟩ := r
      · rfl
      · exact congrArg (answered _ <| .ok ·) c.snapshot_undated.symm
  | metrics =>
      obtain ⟨_ | c⟩ := r
      · rfl
      · exact congrArg (answered _ <| .ok ·) c.metrics_undated.symm
  | nodes =>
      obtain ⟨_ | c⟩ := r
      · rfl
      · exact congrArg (answered _ <| .ok ·) (c.members.values_map _).symm

variable {now r}

/-- A registry that is alike to one with a cluster holds a cluster that is alike. -/
theorem exists_held_of_undated_eq {c : Cluster} (alike : r.undated = ⟨some c.undated⟩) :
    ∃ d, r.held = some d ∧ d.undated = c.undated :=
  Option.map_eq_some_iff.mp (congrArg held alike)

/-- The same call, made at two instants in registries that are alike, leads to
registries that are alike. -/
theorem undated_registry_run (now later : Instant) {s : Registry} (alike : r.undated = s.undated)
    (call : Call) :
    (r.run now call).registry.undated = (s.run later call).registry.undated := by
  have outcomes : (r.run now call).undated call = (s.run later call).undated call := by
    rw [undated_run, undated_run, alike]
  exact congrArg Outcome.registry outcomes

/-- It has answers that are alike, too. -/
theorem undated_answer_run (now later : Instant) {s : Registry} (alike : r.undated = s.undated)
    (call : Call) :
    (r.run now call).answer.map call.undated = (s.run later call).answer.map call.undated := by
  have outcomes : (r.run now call).undated call = (s.run later call).undated call := by
    rw [undated_run, undated_run, alike]
  exact congrArg Outcome.answer outcomes

/-- The same calls made at other instants lead to registries that are alike. -/
theorem undated_runAll {s : Registry} (alike : r.undated = s.undated)
    {calls later : List (Instant × Call)}
    (same : calls.map Prod.snd = later.map Prod.snd) :
    (r.runAll calls).undated = (s.runAll later).undated := by
  induction calls generalizing r s later with
  | nil =>
      obtain rfl := List.map_eq_nil_iff.mp same.symm
      exact alike
  | cons first rest ih =>
      obtain ⟨now, call⟩ := first
      obtain ⟨⟨moment, call'⟩, rest', rfl, sameCall, sameRest⟩ :=
        List.map_eq_cons_iff.mp same.symm
      obtain rfl : call' = call := sameCall
      exact ih (undated_registry_run now moment alike call') sameRest.symm

end Registry

end ControlPlane
