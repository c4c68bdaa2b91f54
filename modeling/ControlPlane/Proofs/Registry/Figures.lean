import ControlPlane.Proofs.Cluster.Table
import ControlPlane.Proofs.Registry.Coherence

/-!
# Figures of a cluster

Each figure that is reported about a cluster is a sum over its members and its
endpoints: every one of them counts for something, and many count for nothing.
A weight says what each counts for.  A node that joins adds what it counts for,
a node that leaves takes it away, and an endpoint that is registered counts in
place of the one it replaces; this holds of all weights alike.  The sums of words
that are reported are the sums of the numbers, unless the memory of the active
members passes 64 bits; the processors never do, because there are no more
members than ids.
-/

namespace ControlPlane

open ControlPlane.Time (Instant)

/-- What members and endpoints count for. -/
structure Weight where
  member : Member → Nat
  endpoint : Endpoint → Nat

namespace Weight

/-- Every member counts for one. -/
def members : Weight where
  member _ := 1
  endpoint _ := 0

/-- Every endpoint counts for one. -/
def endpoints : Weight where
  member _ := 0
  endpoint _ := 1

/-- What a node counts for when it joins, with the endpoint that it brings. -/
def joining (w : Weight) (now : Instant) (spec : NodeSpec) : Nat :=
  w.member (spec.enroll now) + spec.endpoint.elim 0 w.endpoint

/-- The endpoints that nodes bring. -/
theorem sum_joining_endpoints (now : Instant) (nodes : List NodeSpec) :
    (nodes.map (Weight.endpoints.joining now)).sum = nodes.countP (·.endpoint.isSome) := by
  induction nodes with
  | nil => rfl
  | cons spec rest ih =>
      rw [List.map_cons, List.sum_cons, ih, List.countP_cons]
      cases brought : spec.endpoint <;> simp [joining, endpoints, brought, Nat.add_comm]

end Weight

/-- A figure that is reported about a cluster. -/
inductive Figure
  | nodes
  | activeNodes
  | memoryMb
  | vcpus
  | endpoints (t : Transport)

namespace Figure

/-- What members and endpoints count for in a figure: of the members only the
active ones count toward the capacity, and an endpoint counts for its transport. -/
def weight : Figure → Weight
  | nodes => .members
  | activeNodes => ⟨fun m => if m.isActive then 1 else 0, fun _ => 0⟩
  | memoryMb => ⟨fun m => if m.isActive then m.memoryMb.toNat else 0, fun _ => 0⟩
  | vcpus => ⟨fun m => if m.isActive then m.cpuCount.toNat else 0, fun _ => 0⟩
  | endpoints t => ⟨fun _ => 0, fun e => if e.transport = t then 1 else 0⟩

end Figure

/-- The value of a figure in the metrics. -/
def ClusterMetrics.figure (m : ClusterMetrics) : Figure → Nat
  | .nodes => m.totalNodes
  | .activeNodes => m.activeNodes
  | .memoryMb => m.totalMemoryMb.toNat
  | .vcpus => m.totalVcpus.toNat
  | .endpoints .tcp => m.tcpEndpoints
  | .endpoints .rdma => m.rdmaEndpoints

namespace Cluster

/-- What the members and the endpoints of a cluster count for together. -/
def weigh (w : Weight) (c : Cluster) : Nat :=
  c.members.sum w.member + c.endpoints.sum w.endpoint

/-! ## Weights after operations -/

section

variable {c : Cluster} (w : Weight)

@[simp]
theorem weigh_new (name : String) (now : Instant) : (new name now).weigh w = 0 :=
  rfl

/-- A node that joins adds what it counts for. -/
theorem Coherent.weigh_enroll (coherent : c.Coherent) (now : Instant) {spec : NodeSpec}
    (absent : c.members.get? spec.nodeId = none) :
    (c.enroll now spec).weigh w = c.weigh w + w.joining now spec := by
  have silent := coherent.endpoint_of_absent absent
  have members := c.members.sum_insert w.member spec.nodeId (spec.enroll now)
  rw [absent, Option.elim_none, Nat.add_zero] at members
  rw [weigh, weigh, Weight.joining, members_enroll, endpoints_enroll, members]
  cases spec.endpoint with
  | none => simp only [Option.elim_none]; omega
  | some e =>
      have endpoints := c.endpoints.sum_insert w.endpoint spec.nodeId e
      rw [silent, Option.elim_none, Nat.add_zero] at endpoints
      rw [Option.elim_some, endpoints, Option.elim_some]
      omega

/-- Distinct nodes that join one after another add what they count for. -/
theorem Coherent.weigh_foldl_enroll (coherent : c.Coherent) (now : Instant)
    {nodes : List NodeSpec} (distinct : (nodes.map (·.nodeId)).Nodup)
    (absent : ∀ spec ∈ nodes, c.members.get? spec.nodeId = none) :
    (nodes.foldl (Cluster.enroll now) c).weigh w =
      c.weigh w + (nodes.map (w.joining now)).sum := by
  induction nodes generalizing c with
  | nil => rfl
  | cons first rest ih =>
      have joined := coherent.weigh_enroll w now (absent first List.mem_cons_self)
      have all := ih (coherent.enroll now first) (List.nodup_cons.mp distinct).2
        (absent_of_nodup_cons now distinct absent)
      rw [List.foldl_cons, all, joined, List.map_cons, List.sum_cons, Nat.add_assoc]

/-- A node that leaves takes away what it and its endpoint count for. -/
theorem weigh_leave {id : UInt32} {m : Member} (found : c.members.get? id = some m) :
    (c.leave id).weigh w + (w.member m + (c.endpoints.get? id).elim 0 w.endpoint) =
      c.weigh w := by
  have members := c.members.sum_erase w.member id
  have endpoints := c.endpoints.sum_erase w.endpoint id
  rw [found, Option.elim_some] at members
  simp only [weigh, leave]
  omega

/-- An endpoint counts in place of the one it replaces. -/
theorem weigh_setEndpoint (id : UInt32) (e : Endpoint) :
    (c.setEndpoint id e).weigh w + (c.endpoints.get? id).elim 0 w.endpoint =
      c.weigh w + w.endpoint e := by
  have endpoints := c.endpoints.sum_insert w.endpoint id e
  simp only [weigh, setEndpoint]
  omega

end

/-! ## Sizes as weights -/

section

variable (c : Cluster)

theorem weigh_members : c.weigh .members = c.members.size := by
  rw [weigh, Weight.members, IdMap.sum_one, IdMap.sum_zero, Nat.add_zero]

theorem weigh_endpoints : c.weigh .endpoints = c.endpoints.size := by
  rw [weigh, Weight.endpoints, IdMap.sum_one, IdMap.sum_zero, Nat.zero_add]

/-! ## Reported figures -/

/-- The sum of words is the sum of the numbers if that fits into 64 bits. -/
theorem toNat_total (amount : Member → UInt64) {members : List Member}
    (fits : (members.map fun m => (amount m).toNat).sum < 2 ^ 64) :
    (total amount members).toNat = (members.map fun m => (amount m).toNat).sum := by
  induction members with
  | nil => rfl
  | cons m rest ih =>
      rw [List.map_cons, List.sum_cons] at fits ⊢
      have fitsRest : (rest.map fun m => (amount m).toNat).sum < 2 ^ 64 := by omega
      rw [total, UInt64.toNat_add, ih fitsRest, Nat.mod_eq_of_lt fits]

/-- What the active members count for is a sum over the active members. -/
theorem sum_active (amount : Member → Nat) :
    c.members.sum (fun m => if m.isActive then amount m else 0) =
      (c.activeMembers.map amount).sum := by
  rw [IdMap.sum, activeMembers]
  induction c.members.values with
  | nil => rfl
  | cons m rest ih =>
      cases active : m.isActive <;> simp [active, ih]

/-- The processors of the active members fit into 64 bits: there are at most as many
members as ids, and each has less than `UInt32.size` of them. -/
theorem sum_vcpus_lt : (c.activeMembers.map (·.cpuCount.toNat)).sum < 2 ^ 64 := by
  have each : ∀ m : Member,
      (if m.isActive then m.cpuCount.toNat else 0) ≤ UInt32.size - 1 := by
    intro m
    split
    · exact Nat.le_pred_of_lt m.cpuCount.toNat_lt
    · exact Nat.zero_le _
  calc
    (c.activeMembers.map (·.cpuCount.toNat)).sum
        = c.members.sum fun m => if m.isActive then m.cpuCount.toNat else 0 :=
          (c.sum_active (·.cpuCount.toNat)).symm
    _ ≤ c.members.size * (UInt32.size - 1) := c.members.sum_le each
    _ ≤ UInt32.size * (UInt32.size - 1) := Nat.mul_le_mul_right _ c.members.size_le
    _ < 2 ^ 64 := by decide

theorem toNat_totalVcpus :
    c.totalVcpus.toNat = (c.activeMembers.map (·.cpuCount.toNat)).sum := by
  have words : (fun m : Member => m.cpuCount.toUInt64.toNat) = (·.cpuCount.toNat) :=
    funext fun m => m.cpuCount.toNat_toUInt64
  rw [totalVcpus, toNat_total, words]
  rw [words]
  exact c.sum_vcpus_lt

theorem length_activeMembers :
    c.activeMembers.length = c.members.sum fun m => if m.isActive then 1 else 0 := by
  rw [c.sum_active fun _ => 1, List.map_const', List.sum_replicate_nat, Nat.mul_one]

theorem endpointCount_eq_sum (t : Transport) :
    c.endpointCount t = c.endpoints.sum fun e => if e.transport = t then 1 else 0 := by
  rw [endpointCount, IdMap.sum]
  induction c.endpoints.values with
  | nil => rfl
  | cons e rest ih =>
      by_cases same : e.transport = t
      · simp [same, ih, Nat.add_comm]
      · simp [same, ih]

/-- Every endpoint has one of the two transports. -/
theorem endpointCount_tcp_add_rdma :
    c.endpointCount .tcp + c.endpointCount .rdma = c.endpoints.size := by
  have other : (fun e : Endpoint => decide (e.transport = .rdma)) =
      fun e => decide ¬decide (e.transport = .tcp) = true := by
    funext e
    cases e <;> rfl
  rw [← c.endpoints.length_values, endpointCount, endpointCount, other]
  exact (List.length_eq_countP_add_countP _).symm

/-- The metrics report what members and endpoints count for, if the memory of the
active members fits into 64 bits. -/
theorem figure_metrics (fits : (c.activeMembers.map (·.memoryMb.toNat)).sum < 2 ^ 64)
    (f : Figure) : c.metrics.figure f = c.weigh f.weight := by
  cases f with
  | nodes => exact c.weigh_members.symm
  | activeNodes =>
      rw [weigh, Figure.weight, IdMap.sum_zero, Nat.add_zero]
      exact c.length_activeMembers
  | memoryMb =>
      rw [weigh, Figure.weight, IdMap.sum_zero, Nat.add_zero, c.sum_active (·.memoryMb.toNat)]
      exact toNat_total _ fits
  | vcpus =>
      rw [weigh, Figure.weight, IdMap.sum_zero, Nat.add_zero, c.sum_active (·.cpuCount.toNat)]
      exact c.toNat_totalVcpus
  | endpoints t =>
      rw [weigh, Figure.weight, IdMap.sum_zero, Nat.zero_add, ← c.endpointCount_eq_sum]
      cases t <;> rfl

end

end Cluster

end ControlPlane
