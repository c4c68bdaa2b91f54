import ControlPlane.Proofs.Registry.Query
import ControlPlane.Proofs.Registry.Step

/-!
# The two tables stay in step

A cluster keeps its members and their endpoints in two tables that only the
registry's discipline holds together.  A cluster is coherent if no endpoint is
without its member and no member stands under the id of another node.  Every
operation that the registry performs preserves this, so it holds after every run.
-/

namespace ControlPlane

open ControlPlane.Time (Instant)

namespace Cluster

/-- Endpoints belong to members, and members stand under their own ids. -/
structure Coherent (c : Cluster) : Prop where
  hasMember_of_endpoint : ∀ id, c.endpoints.contains id = true → c.hasMember id = true
  own_id : ∀ id m, c.members.get? id = some m → m.nodeId = id

variable {c : Cluster}

theorem coherent_new (name : String) (now : Instant) : (new name now).Coherent where
  hasMember_of_endpoint id registered := by simp [IdMap.contains] at registered
  own_id id m found := by simp at found

theorem Coherent.enroll (coherent : c.Coherent) (now : Instant) (spec : NodeSpec) :
    (c.enroll now spec).Coherent where
  hasMember_of_endpoint id registered := by
    rw [IdMap.contains_eq_true_iff, get?_endpoints_enroll] at registered
    rw [hasMember_eq_true_iff, get?_members_enroll]
    by_cases own : id = spec.nodeId
    · exact ⟨spec.enroll now, if_pos own⟩
    · rw [if_neg own] at registered ⊢
      rw [← hasMember_eq_true_iff]
      exact coherent.hasMember_of_endpoint id (c.endpoints.contains_eq_true_iff.mpr registered)
  own_id id m found := by
    rw [get?_members_enroll] at found
    split at found
    · next own =>
        obtain rfl := Option.some.inj found
        exact own.symm
    · exact coherent.own_id id m found

theorem Coherent.foldl_enroll (coherent : c.Coherent) (now : Instant) (nodes : List NodeSpec) :
    (nodes.foldl (Cluster.enroll now) c).Coherent := by
  induction nodes generalizing c with
  | nil => exact coherent
  | cons spec rest ih => exact ih (coherent.enroll now spec)

theorem Coherent.leave (coherent : c.Coherent) (id : UInt32) : (c.leave id).Coherent where
  hasMember_of_endpoint other registered := by
    rw [IdMap.contains_eq_true_iff, get?_endpoints_leave] at registered
    rw [hasMember_eq_true_iff, get?_members_leave]
    by_cases gone : other = id
    · simp [gone] at registered
    · rw [if_neg gone] at registered ⊢
      rw [← hasMember_eq_true_iff]
      exact coherent.hasMember_of_endpoint other
        (c.endpoints.contains_eq_true_iff.mpr registered)
  own_id other m found := by
    rw [get?_members_leave] at found
    split at found
    · contradiction
    · exact coherent.own_id other m found

/-- An endpoint may be set for a member; for a stranger the tables would part. -/
theorem Coherent.setEndpoint (coherent : c.Coherent) {id : UInt32}
    (present : c.hasMember id = true) (e : Endpoint) : (c.setEndpoint id e).Coherent where
  hasMember_of_endpoint other registered := by
    rw [IdMap.contains_eq_true_iff, get?_endpoints_setEndpoint] at registered
    by_cases own : other = id
    · rw [own]
      exact present
    · rw [if_neg own] at registered
      exact coherent.hasMember_of_endpoint other
        (c.endpoints.contains_eq_true_iff.mpr registered)
  own_id other m found := coherent.own_id other m found

/-- A node that is no member has no endpoint. -/
theorem Coherent.endpoint_of_absent (coherent : c.Coherent) {id : UInt32}
    (absent : c.members.get? id = none) : c.endpoints.get? id = none := by
  rw [← c.endpoints.contains_eq_false_iff, Bool.eq_false_iff]
  intro registered
  have present := coherent.hasMember_of_endpoint id registered
  rw [c.hasMember_eq_false_iff.mpr absent] at present
  contradiction

/-- The members of a coherent cluster, listed, have the ids of the table. -/
theorem Coherent.map_nodeId_values (coherent : c.Coherent) :
    c.members.values.map (·.nodeId) = c.members.ids :=
  c.members.map_values_eq_ids (·.nodeId) coherent.own_id

end Cluster

namespace Registry

/-- The cluster that is held, if there is one, is coherent. -/
def Coherent (r : Registry) : Prop :=
  ∀ c, r.held = some c → c.Coherent

theorem coherent_empty : empty.Coherent := by
  intro c held
  contradiction

/-- Every step preserves coherence. -/
theorem Coherent.step {now : Instant} {r r' : Registry} {call : Call} {failure : Option Error}
    (step : Step now r call failure r') (coherent : r.Coherent) : r'.Coherent := by
  intro next heldNext
  cases step with
  | created free distinct =>
      obtain rfl := Option.some.inj heldNext
      exact (Cluster.coherent_new _ now).foldl_enroll now _
  | destroyed held => contradiction
  | joined held absent =>
      obtain rfl := Option.some.inj heldNext
      exact (coherent _ held).enroll now _
  | left held present =>
      obtain rfl := Option.some.inj heldNext
      exact (coherent _ held).leave _
  | registered held present =>
      obtain rfl := Option.some.inj heldNext
      exact (coherent _ held).setEndpoint present _
  | refused => exact coherent next heldNext
  | answered query => exact coherent next heldNext

theorem Coherent.run {r : Registry} (coherent : r.Coherent) (now : Instant) (call : Call) :
    (r.run now call).registry.Coherent :=
  coherent.step (step_run now r call)

theorem Coherent.runAll {r : Registry} (coherent : r.Coherent)
    (calls : List (Instant × Call)) : (r.runAll calls).Coherent :=
  runAll_induction Coherent.step coherent calls

/-- After any calls there is no cluster, or a coherent one.  Then the members are
listed by strictly ascending ids, the endpoints too and only those of listed
members, and whoever asks for a node gets no other. -/
theorem runAll_empty_coherent (calls : List (Instant × Call)) :
    let r := empty.runAll calls
    r.held = none ∨
      ∃ c, r.held = some c ∧ c.Coherent ∧
        ∃ members directory, r.nodes = .ok members ∧ r.endpoints = .ok directory ∧
          (members.map (·.nodeId)).Pairwise (· < ·) ∧ (members.map (·.nodeId)).Nodup ∧
          directory.endpoints.ids.Pairwise (· < ·) ∧
          (∀ id ∈ directory.endpoints.ids, id ∈ members.map (·.nodeId)) ∧
          ∀ id m, r.node id = .ok m → m.nodeId = id := by
  intro r
  have coherentRun : r.Coherent := coherent_empty.runAll calls
  cases held : r.held with
  | none => exact .inl rfl
  | some c =>
      have coherent : c.Coherent := coherentRun c held
      have ascending : (c.members.values.map (·.nodeId)).Pairwise (· < ·) := by
        rw [coherent.map_nodeId_values]
        exact c.members.ascending_ids
      refine .inr ⟨c, rfl, coherent, c.members.values, c.directory, nodes_of_held held,
        endpoints_of_held held, ascending, ?_, c.endpoints.ascending_ids, ?_, ?_⟩
      · exact ascending.imp fun below => UInt32.ne_of_lt below
      · intro id idMem
        rw [coherent.map_nodeId_values, IdMap.mem_ids_iff]
        exact coherent.hasMember_of_endpoint id (c.endpoints.mem_ids_iff.mp idMem)
      · intro id m answered
        obtain ⟨d, heldAlso, found⟩ := node_eq_ok_iff.mp answered
        obtain rfl := Option.some.inj (held.symm.trans heldAlso)
        exact coherent.own_id id m found

end Registry

end ControlPlane
