import ControlPlane.Proofs.Cluster.Lookup
import ControlPlane.Registry.Call

/-!
# What queries answer

Without a cluster every query fails in the same way, except the one that asks
whether there is a cluster.  With a cluster the answers are read off its tables.
-/

namespace ControlPlane.Registry

variable {r : Registry} {c : Cluster}

theorem require_of_free (free : r.held = none) : r.require = .error .clusterNotFound := by
  rw [require, free]

theorem require_of_held (held : r.held = some c) : r.require = .ok c := by
  rw [require, held]

theorem map_require_of_held {α : Type} (held : r.held = some c) (f : Cluster → α) :
    r.require.map f = .ok (f c) := by
  rw [require_of_held held]
  rfl

theorem node_of_free (free : r.held = none) (id : UInt32) :
    r.node id = .error .clusterNotFound := by
  rw [node, require_of_free free]
  rfl

theorem node_of_held (held : r.held = some c) (id : UInt32) :
    r.node id = match c.members.get? id with
      | some m => .ok m
      | none => .error (.nodeNotFound id) := by
  rw [node, require_of_held held]
  rfl

theorem endpoint_of_free (free : r.held = none) (id : UInt32) :
    r.endpoint id = .error .clusterNotFound := by
  rw [endpoint, require_of_free free]
  rfl

theorem endpoint_of_stranger (held : r.held = some c) {id : UInt32}
    (absent : c.members.get? id = none) : r.endpoint id = .error (.nodeNotFound id) := by
  rw [endpoint, require_of_held held]
  change (if !c.hasMember id then _ else _) = _
  rw [c.hasMember_eq_false_iff.mpr absent]
  rfl

theorem endpoint_of_member (held : r.held = some c) {id : UInt32} {m : Member}
    (found : c.members.get? id = some m) :
    r.endpoint id = match c.endpoints.get? id with
      | some e => .ok e
      | none => .error (.endpointNotFound id) := by
  rw [endpoint, require_of_held held]
  change (if !c.hasMember id then _ else _) = _
  rw [c.hasMember_eq_true_iff.mpr ⟨m, found⟩]
  rfl

theorem nodes_of_held (held : r.held = some c) : r.nodes = .ok c.members.values :=
  map_require_of_held held _

theorem nodes_eq_ok_iff {members : List Member} :
    r.nodes = .ok members ↔ ∃ c, r.held = some c ∧ c.members.values = members := by
  cases held : r.held with
  | none => simp [nodes, require_of_free held, Except.map]
  | some c => simp [nodes_of_held held]

theorem endpoints_of_held (held : r.held = some c) : r.endpoints = .ok c.directory :=
  map_require_of_held held _

/-- A node is answered exactly if the held cluster has it under the id asked
for. -/
theorem node_eq_ok_iff {id : UInt32} {m : Member} :
    r.node id = .ok m ↔ ∃ c, r.held = some c ∧ c.members.get? id = some m := by
  cases held : r.held with
  | none => simp [node_of_free held]
  | some c =>
      rw [node_of_held held]
      cases found : c.members.get? id <;> simp [found]

/-- An endpoint is answered exactly if the held cluster has it for a member. -/
theorem endpoint_eq_ok_iff {id : UInt32} {e : Endpoint} :
    r.endpoint id = .ok e ↔
      ∃ c, r.held = some c ∧ c.hasMember id = true ∧ c.endpoints.get? id = some e := by
  cases held : r.held with
  | none => simp [endpoint_of_free held]
  | some c =>
      cases found : c.members.get? id with
      | none =>
          have absent : c.hasMember id = false := c.hasMember_eq_false_iff.mpr found
          simp [endpoint_of_stranger held found, absent]
      | some m =>
          have present : c.hasMember id = true := c.hasMember_eq_true_iff.mpr ⟨m, found⟩
          rw [endpoint_of_member held found]
          cases registered : c.endpoints.get? id <;> simp [present, registered]

end ControlPlane.Registry
