import ControlPlane.Proofs.Registry.Coherence
import ControlPlane.Proofs.Registry.Undated

/-!
# Tables and clusters built from listings

A table is determined by its entries in any order: inserting them into an empty
table gives the table back.  A coherent cluster is therefore rebuilt, apart from
instants, by enrolling its members as they are listed and setting the endpoints
that are listed.
-/

namespace ControlPlane

open ControlPlane.Time (Instant)

namespace IdMap

variable {α : Type}

/-- The table after entries are inserted one after another. -/
def fill (m : IdMap α) (entries : List (UInt32 × α)) : IdMap α :=
  entries.foldl (fun table entry => table.insert entry.1 entry.2) m

theorem fill_cons (m : IdMap α) (id : UInt32) (x : α) (rest : List (UInt32 × α)) :
    m.fill ((id, x) :: rest) = (m.insert id x).fill rest :=
  rfl

theorem get?_fill_of_not_mem (m : IdMap α) {entries : List (UInt32 × α)} {id : UInt32}
    (absent : id ∉ entries.map Prod.fst) : (m.fill entries).get? id = m.get? id := by
  induction entries generalizing m with
  | nil => rfl
  | cons first rest ih =>
      obtain ⟨key, x⟩ := first
      rw [List.map_cons, List.mem_cons, not_or] at absent
      rw [fill_cons, ih _ absent.2, get?_insert, if_neg absent.1]

/-- If no key comes twice, every inserted entry is found. -/
theorem get?_fill_of_mem (m : IdMap α) {entries : List (UInt32 × α)}
    (distinct : (entries.map Prod.fst).Nodup) {id : UInt32} {x : α}
    (entryMem : (id, x) ∈ entries) : (m.fill entries).get? id = some x := by
  induction entries generalizing m with
  | nil => contradiction
  | cons first rest ih =>
      obtain ⟨key, y⟩ := first
      rw [List.map_cons, List.nodup_cons] at distinct
      rw [fill_cons]
      rcases List.mem_cons.mp entryMem with isFirst | inRest
      · obtain ⟨rfl, rfl⟩ := Prod.mk.inj isFirst
        rw [get?_fill_of_not_mem _ distinct.1, get?_insert, if_pos rfl]
      · exact ih _ distinct.2 inRest

/-- The entries of a table, inserted in any order, give the table. -/
theorem fill_of_perm {m : IdMap α} {entries : List (UInt32 × α)}
    (same : entries.Perm m.entries) : empty.fill entries = m := by
  have distinct : (entries.map Prod.fst).Nodup :=
    (same.map Prod.fst).nodup_iff.mpr m.nodup_ids
  apply ext_get?
  intro id
  cases found : m.get? id with
  | some x =>
      have entryMem : (id, x) ∈ entries := same.mem_iff.mpr (m.get?_eq_some_iff.mp found)
      exact empty.get?_fill_of_mem distinct entryMem
  | none =>
      have absent : id ∉ entries.map Prod.fst := by
        rw [(same.map Prod.fst).mem_iff]
        intro idMem
        have there := m.mem_ids_iff.mp idMem
        rw [m.contains_eq_false_iff.mpr found] at there
        contradiction
      exact empty.get?_fill_of_not_mem absent

end IdMap

/-- A member as one that is to join with the status it has. -/
def Member.announced (m : Member) : NodeSpec where
  nodeId := m.nodeId
  hostname := m.hostname
  ipAddress := m.ipAddress
  rdmaGid := m.rdmaGid
  cpuCount := m.cpuCount
  memoryMb := m.memoryMb
  status := some m.status
  endpoint := none

namespace Cluster

/-- Nodes that bring no endpoints fill the table of members. -/
theorem foldl_enroll_of_bare (now : Instant) (c : Cluster) {nodes : List NodeSpec}
    (bare : ∀ spec ∈ nodes, spec.endpoint = none) :
    nodes.foldl (enroll now) c =
      { c with members :=
          c.members.fill (nodes.map fun spec => (spec.nodeId, spec.enroll now)) } := by
  induction nodes generalizing c with
  | nil => rfl
  | cons spec rest ih =>
      have first : c.enroll now spec =
          { c with members := c.members.insert spec.nodeId (spec.enroll now) } := by
        unfold enroll join
        rw [bare spec List.mem_cons_self]
        rfl
      rw [List.foldl_cons, first, ih _ fun other otherMem =>
        bare other (List.mem_cons_of_mem spec otherMem)]
      rfl

/-- The members of a coherent cluster, enrolled as they are listed, are those of the
cluster, apart from instants. -/
theorem Coherent.foldl_enroll_announced {c : Cluster} (coherent : c.Coherent) :
    (c.members.values.map Member.announced).foldl (Cluster.enroll .epoch)
        (.new c.name .epoch) = { c.undated with endpoints := .empty } := by
  have bare : ∀ spec ∈ c.members.values.map Member.announced, spec.endpoint = none := by
    intro spec specMem
    obtain ⟨m, _, rfl⟩ := List.mem_map.mp specMem
    rfl
  have entries : (c.members.values.map Member.announced).map
      (fun spec => (spec.nodeId, spec.enroll .epoch)) = (c.members.map Member.undated).entries := by
    rw [List.map_map, IdMap.values, List.map_map, IdMap.map]
    apply List.map_congr_left
    rintro ⟨id, m⟩ entryMem
    have own : m.nodeId = id := coherent.own_id id m (c.members.get?_eq_some_iff.mpr entryMem)
    exact congrArg (·, m.undated) own
  rw [foldl_enroll_of_bare .epoch _ bare, entries, new,
    IdMap.fill_of_perm (m := c.members.map Member.undated) (List.Perm.refl _)]
  rfl

end Cluster

end ControlPlane
