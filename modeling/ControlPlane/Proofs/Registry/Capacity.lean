import ControlPlane.Proofs.Registry.Effect
import ControlPlane.Proofs.Registry.Figures
import Mathlib.Algebra.BigOperators.Group.List.Basic

/-!
# Capacity sums

The memory and the processors of the active members are added up in words of 64 bits, one
member after another.  The processors always fit: there are at most as many members as ids,
and each has less than `2 ^ 32` of them.  The memory fits as soon as all of it does, for then
every part of it does too.  What members that are not active have does not count at all.
-/

namespace ControlPlane

open ControlPlane.Time (Instant)

/-! ## Adding up -/

/-- Adding an amount up over members, one after another, no partial sum passes 64 bits; so as
words all of them are exact. -/
structure AddsUp (amount : Member → UInt64) (members : List Member) : Prop where
  partial_lt : ∀ k, ((members.take k).map fun m => (amount m).toNat).sum < 2 ^ 64
  partial_exact : ∀ k, (Cluster.total amount (members.take k)).toNat =
    ((members.take k).map fun m => (amount m).toNat).sum

/-- Totals are the sums of the memory and of the processors that are counted; that of the
memory, if it fits into 64 bits. -/
structure ExactTotals (memoryMb vcpus : List Nat) (totalMemoryMb totalVcpus : UInt64) : Prop where
  vcpus : totalVcpus.toNat = vcpus.sum
  memory : memoryMb.sum ≤ 2 ^ 64 - 1 → totalMemoryMb.toNat = memoryMb.sum

/-- A part of a list counts for no more than the list. -/
theorem sum_map_take_le {α : Type} (amount : α → Nat) (xs : List α) (k : Nat) :
    ((xs.take k).map amount).sum ≤ (xs.map amount).sum := by
  have parts := List.sum_take_add_sum_drop (xs.map amount) k
  rw [← List.map_take] at parts
  omega

/-- If all of an amount fits into 64 bits, it is added up. -/
theorem addsUp_of_sum_lt {amount : Member → UInt64} {members : List Member}
    (fits : (members.map fun m => (amount m).toNat).sum < 2 ^ 64) : AddsUp amount members := by
  have within (k : Nat) : ((members.take k).map fun m => (amount m).toNat).sum < 2 ^ 64 :=
    Nat.lt_of_le_of_lt (sum_map_take_le _ members k) fits
  exact ⟨within, fun k => Cluster.toNat_total amount (within k)⟩

theorem Member.isActive_enroll (spec : NodeSpec) (now : Instant) :
    (spec.enroll now).isActive = decide (spec.status = some .active) := by
  rw [isActive, NodeSpec.enroll]
  cases spec.status with
  | none => rfl
  | some status => simp

namespace Cluster

section

variable (c : Cluster)

/-- The processors of the active members are added up, however many each of them has. -/
theorem addsUp_vcpus : AddsUp (·.cpuCount.toUInt64) c.activeMembers := by
  apply addsUp_of_sum_lt
  simpa only [UInt32.toNat_toUInt64] using c.sum_vcpus_lt

/-- The totals of a cluster are those of its active members. -/
theorem exactTotals :
    ExactTotals (c.activeMembers.map (·.memoryMb.toNat)) (c.activeMembers.map (·.cpuCount.toNat))
      c.totalMemoryMb c.totalVcpus where
  vcpus := c.toNat_totalVcpus
  memory fits := toNat_total _ (Nat.lt_of_le_of_lt fits (by decide))

end

/-- What active members count for in a new cluster is what the nodes count for that are
active when they join. -/
theorem sum_active_foldl_enroll (now : Instant) (name : String) {nodes : List NodeSpec}
    (distinct : (nodes.map (·.nodeId)).Nodup) (amount : Member → Nat) :
    ((nodes.foldl (enroll now) (new name now)).activeMembers.map amount).sum =
      ((nodes.filter (·.status = some .active)).map fun spec => amount (spec.enroll now)).sum := by
  let w : Weight := ⟨fun m => if m.isActive then amount m else 0, fun _ => 0⟩
  have joined := (coherent_new name now).weigh_foldl_enroll w now distinct
    fun spec _ => get?_members_new name now spec.nodeId
  rw [weigh_new, Nat.zero_add, weigh, IdMap.sum_zero, Nat.add_zero, sum_active] at joined
  have counted : w.joining now =
      fun spec => if spec.status = some .active then amount (spec.enroll now) else 0 := by
    funext spec
    have unendowed : spec.endpoint.elim 0 w.endpoint = 0 := by cases spec.endpoint <;> rfl
    rw [Weight.joining, unendowed, Nat.add_zero]
    simp only [w, Member.isActive_enroll, decide_eq_true_eq]
  rw [joined, counted, List.sum_map_ite]
  simp

/-- The totals of a new cluster are those of the nodes that are active when they join. -/
theorem exactTotals_foldl_enroll (now : Instant) (name : String) {nodes : List NodeSpec}
    (distinct : (nodes.map (·.nodeId)).Nodup) :
    let c := nodes.foldl (enroll now) (new name now)
    let active := nodes.filter (·.status = some .active)
    ExactTotals (active.map (·.memoryMb.toNat)) (active.map (·.cpuCount.toNat))
      c.totalMemoryMb c.totalVcpus := by
  intro c active
  have memory := sum_active_foldl_enroll now name distinct (·.memoryMb.toNat)
  have vcpus := sum_active_foldl_enroll now name distinct (·.cpuCount.toNat)
  have totals := c.exactTotals
  exact ⟨totals.vcpus.trans vcpus,
    fun fits => (totals.memory (memory.symm ▸ fits)).trans memory⟩

end Cluster

namespace Registry

/-- After any calls the capacity is reported as it is.  There are at most `2 ^ 32` members.
The processors of the active ones, in the order of their ids, are added up whatever their
numbers are, and so is the memory if all of it fits into 64 bits; then the snapshot and the
metrics report the sums, and whoever creates a cluster gets the sums of the nodes that are
active in it. -/
theorem capacity_is_exact (calls : List (Instant × Call)) :
    let r := empty.runAll calls
    (∀ members, r.nodes = .ok members →
      let active := members.filter (·.status = .active)
      let memoryMb := active.map (·.memoryMb.toNat)
      let vcpus := active.map (·.cpuCount.toNat)
      members.length ≤ 2 ^ 32 ∧ (active.map (·.nodeId)).Pairwise (· < ·) ∧
      AddsUp (·.cpuCount.toUInt64) active ∧
      (memoryMb.sum ≤ 2 ^ 64 - 1 → AddsUp (·.memoryMb) active) ∧
      ∃ snapshot metrics, r.snapshot = .ok snapshot ∧ r.metrics = .ok metrics ∧
        ExactTotals memoryMb vcpus snapshot.totalMemoryMb snapshot.totalVcpus ∧
        ExactTotals memoryMb vcpus metrics.totalMemoryMb metrics.totalVcpus) ∧
    ∀ now name nodes summary, (r.run now (.create name nodes)).answer = .ok summary →
      let active := nodes.filter (·.status = some .active)
      ExactTotals (active.map (·.memoryMb.toNat)) (active.map (·.cpuCount.toNat))
        summary.totalMemoryMb summary.totalVcpus := by
  intro r
  refine ⟨?held, ?created⟩
  case held =>
    intro members listed active memoryMb vcpus
    obtain ⟨c, held, rfl⟩ := nodes_eq_ok_iff.mp listed
    have coherent : c.Coherent := coherent_empty.runAll calls c held
    have size : c.members.values.length ≤ 2 ^ 32 := by
      rw [c.members.length_values]
      exact c.members.size_le
    have ascending : (c.members.values.map (·.nodeId)).Pairwise (· < ·) := by
      rw [coherent.map_nodeId_values]
      exact c.members.ascending_ids
    refine ⟨size, ?ordered, c.addsUp_vcpus, ?memory, c.snapshot, c.metrics,
      map_require_of_held held _, map_require_of_held held _, c.exactTotals, c.exactTotals⟩
    case ordered =>
      exact ascending.sublist (List.filter_sublist.map _)
    case memory =>
      intro fits
      exact addsUp_of_sum_lt (Nat.lt_of_le_of_lt fits (by decide))
  case created =>
    intro now name nodes summary succeeded active
    have effect := effect_run succeeded
    generalize (r.run now (.create name nodes)).registry = next at effect
    cases effect with
    | created free distinct filled =>
        subst filled
        exact Cluster.exactTotals_foldl_enroll now name distinct
    | answered query => contradiction

/-- Two active nodes have as much memory as can be reported; one that joins and one that
failed have as much again, and it does not count. -/
theorem capacity_is_exact_at_limit :
    let spec : UInt32 → UInt64 → Option Status → NodeSpec := fun id memoryMb status =>
      { nodeId := id, hostname := "h", ipAddress := "i", rdmaGid := none,
        cpuCount := 4294967295, memoryMb, status, endpoint := none }
    let nodes : List NodeSpec :=
      [spec 4 1 (some .active), spec 2 18446744073709551615 none,
       spec 3 18446744073709551615 (some .failed), spec 1 18446744073709551614 (some .active)]
    let r := empty.runAll [(.epoch, .create "c" nodes)]
    ∃ members summary snapshot, r.nodes = .ok members ∧ r.snapshot = .ok snapshot ∧
      (empty.run .epoch (.create "c" nodes)).answer = .ok summary ∧
      AddsUp (·.memoryMb) (members.filter (·.status = .active)) ∧
      snapshot.totalMemoryMb.toNat = 2 ^ 64 - 1 ∧ summary.totalMemoryMb.toNat = 2 ^ 64 - 1 ∧
      snapshot.totalVcpus.toNat = 2 * 4294967295 := by
  intro spec nodes r
  obtain ⟨reported, -⟩ := capacity_is_exact [(.epoch, .create "c" nodes)]
  obtain ⟨-, founded⟩ := capacity_is_exact []
  obtain ⟨-, -, -, memory, snapshot, metrics, shown, -, totals, -⟩ := reported _ rfl
  have summary := founded .epoch "c" nodes _ rfl
  refine ⟨_, _, snapshot, rfl, shown, rfl, memory (by decide), ?_, ?_, ?_⟩
  · exact (totals.memory (by decide)).trans (by decide)
  · exact (summary.memory (by decide)).trans (by decide)
  · exact totals.vcpus.trans (by decide)

end Registry

end ControlPlane
