import ControlPlane.Cluster.Basic

/-!
# Lookups in a cluster

What a table keyed by node ids contains can be said through lookups alone, and
each operation on a cluster has one equation for the lookups in each of its two
tables.  Proofs about clusters cite these equations and never open the tables.
-/

namespace ControlPlane

open ControlPlane.Time (Instant)

namespace IdMap

variable {α : Type}

/-! ## Ids and values -/

theorem contains_eq_true_iff (m : IdMap α) {id : UInt32} :
    m.contains id = true ↔ ∃ x, m.get? id = some x :=
  Option.isSome_iff_exists

theorem contains_eq_false_iff (m : IdMap α) {id : UInt32} :
    m.contains id = false ↔ m.get? id = none := by
  simp [contains]

/-- The ids of a table are the ids that have a value. -/
theorem mem_ids_iff (m : IdMap α) {id : UInt32} :
    id ∈ m.ids ↔ m.contains id = true := by
  rw [contains_eq_true_iff, ids, List.mem_map]
  constructor
  · rintro ⟨⟨key, x⟩, entryMem, rfl⟩
    exact ⟨x, m.get?_eq_some_iff.mpr entryMem⟩
  · rintro ⟨x, found⟩
    exact ⟨(id, x), m.get?_eq_some_iff.mp found, rfl⟩

/-- The values of a table are what lookups find. -/
theorem mem_values_iff (m : IdMap α) {x : α} :
    x ∈ m.values ↔ ∃ id, m.get? id = some x := by
  rw [values, List.mem_map]
  constructor
  · rintro ⟨⟨key, y⟩, entryMem, rfl⟩
    exact ⟨key, m.get?_eq_some_iff.mpr entryMem⟩
  · rintro ⟨id, found⟩
    exact ⟨(id, x), m.get?_eq_some_iff.mp found, rfl⟩

theorem ascending_ids (m : IdMap α) : m.ids.Pairwise (· < ·) := by
  rw [ids, List.pairwise_map]
  exact m.ascending

theorem nodup_ids (m : IdMap α) : m.ids.Nodup :=
  m.ascending_ids.imp fun below => UInt32.ne_of_lt below

/-- If every value carries its own id, the ids read off the values are the ids
of the table. -/
theorem map_values_eq_ids (m : IdMap α) (key : α → UInt32)
    (own : ∀ id x, m.get? id = some x → key x = id) : m.values.map key = m.ids := by
  rw [values, ids, List.map_map]
  apply List.map_congr_left
  rintro ⟨id, x⟩ entryMem
  exact own id x (m.get?_eq_some_iff.mpr entryMem)

end IdMap

namespace Cluster

/-! ## Operations -/

@[simp]
theorem get?_members_new (name : String) (now : Instant) (id : UInt32) :
    (new name now).members.get? id = none :=
  rfl

@[simp]
theorem get?_endpoints_new (name : String) (now : Instant) (id : UInt32) :
    (new name now).endpoints.get? id = none :=
  rfl

@[simp]
theorem name_enroll (now : Instant) (c : Cluster) (spec : NodeSpec) :
    (c.enroll now spec).name = c.name := by
  rcases spec with ⟨_, _, _, _, _, _, _, _ | _⟩ <;> rfl

@[simp]
theorem members_setEndpoint (c : Cluster) (id : UInt32) (e : Endpoint) :
    (c.setEndpoint id e).members = c.members :=
  rfl

theorem members_enroll (now : Instant) (c : Cluster) (spec : NodeSpec) :
    (c.enroll now spec).members = c.members.insert spec.nodeId (spec.enroll now) := by
  rcases spec with ⟨_, _, _, _, _, _, _, _ | _⟩ <;> rfl

theorem endpoints_enroll (now : Instant) (c : Cluster) (spec : NodeSpec) :
    (c.enroll now spec).endpoints =
      spec.endpoint.elim c.endpoints (c.endpoints.insert spec.nodeId) := by
  rcases spec with ⟨_, _, _, _, _, _, _, _ | _⟩ <;> rfl

/-- A node that joins is found under its own id. -/
theorem get?_members_enroll (now : Instant) (c : Cluster) (spec : NodeSpec) (id : UInt32) :
    (c.enroll now spec).members.get? id =
      if id = spec.nodeId then some (spec.enroll now) else c.members.get? id := by
  rw [members_enroll, IdMap.get?_insert]

/-- A node that joins brings its endpoint; without one, what is there stays. -/
theorem get?_endpoints_enroll (now : Instant) (c : Cluster) (spec : NodeSpec) (id : UInt32) :
    (c.enroll now spec).endpoints.get? id =
      if id = spec.nodeId then spec.endpoint.or (c.endpoints.get? id)
      else c.endpoints.get? id := by
  rw [endpoints_enroll]
  cases spec.endpoint with
  | none => simp
  | some e => rw [Option.elim_some, IdMap.get?_insert, Option.some_or]

theorem get?_members_leave (c : Cluster) (id other : UInt32) :
    (c.leave id).members.get? other = if other = id then none else c.members.get? other :=
  IdMap.get?_erase _ _ _

theorem get?_endpoints_leave (c : Cluster) (id other : UInt32) :
    (c.leave id).endpoints.get? other =
      if other = id then none else c.endpoints.get? other :=
  IdMap.get?_erase _ _ _

theorem get?_endpoints_setEndpoint (c : Cluster) (id other : UInt32) (e : Endpoint) :
    (c.setEndpoint id e).endpoints.get? other =
      if other = id then some e else c.endpoints.get? other :=
  IdMap.get?_insert _ _ _ _

theorem hasMember_eq_true_iff (c : Cluster) {id : UInt32} :
    c.hasMember id = true ↔ ∃ m, c.members.get? id = some m :=
  c.members.contains_eq_true_iff

theorem hasMember_eq_false_iff (c : Cluster) {id : UInt32} :
    c.hasMember id = false ↔ c.members.get? id = none :=
  c.members.contains_eq_false_iff

/-- A node that joins is one more member. -/
theorem hasMember_enroll_iff (now : Instant) (c : Cluster) (spec : NodeSpec) {id : UInt32} :
    (c.enroll now spec).hasMember id = true ↔ id = spec.nodeId ∨ c.hasMember id = true := by
  rw [hasMember_eq_true_iff, hasMember_eq_true_iff, get?_members_enroll]
  by_cases own : id = spec.nodeId <;> simp [own]

/-- When the first of several distinct nodes has joined, the others are still no
members. -/
theorem absent_of_nodup_cons (now : Instant) {c : Cluster} {first : NodeSpec}
    {rest : List NodeSpec} (distinct : ((first :: rest).map (·.nodeId)).Nodup)
    (absent : ∀ spec ∈ first :: rest, c.members.get? spec.nodeId = none) :
    ∀ spec ∈ rest, (c.enroll now first).members.get? spec.nodeId = none := by
  intro spec specMem
  have ne : spec.nodeId ≠ first.nodeId := by
    intro idEq
    exact (List.nodup_cons.mp distinct).1 (List.mem_map.mpr ⟨spec, specMem, idEq⟩)
  rw [get?_members_enroll, if_neg ne]
  exact absent spec (List.mem_cons_of_mem first specMem)

end Cluster

end ControlPlane
