import ControlPlane.Proofs.Registry.Effect
import ControlPlane.Proofs.Registry.Figures

/-!
# Reports and listings

The snapshot, the metrics and the two listings each read the tables in their own
way.  They agree: every count is the length of a listing or of a part of it, and
every total is a sum over the listed members that are active.  A call that
succeeds moves each figure of the metrics by what it adds less what it takes
away, and both can be told from the call and from queries made before it.
-/

namespace ControlPlane

open ControlPlane.Time (Instant)

/-! ## Agreement -/

/-- The reports about a cluster agree with each other and with its listings. -/
structure Agree (snapshot : ClusterSnapshot) (metrics : ClusterMetrics) (members : List Member)
    (endpoints : List (UInt32 × Endpoint)) : Prop where
  nodes : snapshot.nodes = members.length ∧ metrics.totalNodes = members.length
  activeNodes :
    let active := members.filter (·.status = .active)
    snapshot.activeNodes = active.length ∧ metrics.activeNodes = active.length
  memory :
    let sum := ((members.filter (·.status = .active)).map (·.memoryMb.toNat)).sum
    snapshot.totalMemoryMb.toNat = sum ∧ metrics.totalMemoryMb.toNat = sum
  vcpus :
    let sum := ((members.filter (·.status = .active)).map (·.cpuCount.toNat)).sum
    snapshot.totalVcpus.toNat = sum ∧ metrics.totalVcpus.toNat = sum
  tcp : metrics.tcpEndpoints = endpoints.countP (·.2.transport = .tcp)
  rdma : metrics.rdmaEndpoints = endpoints.countP (·.2.transport = .rdma)
  endpoints : metrics.tcpEndpoints + metrics.rdmaEndpoints = endpoints.length ∧
    endpoints.length ≤ metrics.totalNodes

namespace Cluster

variable {c : Cluster}

theorem endpointCount_eq_countP (t : Transport) :
    c.endpointCount t = c.endpoints.entries.countP (·.2.transport = t) := by
  rw [endpointCount, IdMap.values, List.countP_map]
  rfl

/-- The reports about a coherent cluster agree, if the memory of its active members
fits into 64 bits. -/
theorem Coherent.agree (coherent : c.Coherent)
    (fits : (c.activeMembers.map (·.memoryMb.toNat)).sum < 2 ^ 64) :
    Agree c.snapshot c.metrics c.members.values c.endpoints.entries where
  nodes := ⟨c.members.length_values.symm, c.members.length_values.symm⟩
  activeNodes := ⟨rfl, rfl⟩
  memory := ⟨toNat_total _ fits, toNat_total _ fits⟩
  vcpus := ⟨c.toNat_totalVcpus, c.toNat_totalVcpus⟩
  tcp := endpointCount_eq_countP .tcp
  rdma := endpointCount_eq_countP .rdma
  endpoints :=
    ⟨c.endpointCount_tcp_add_rdma, IdMap.size_le_size coherent.hasMember_of_endpoint⟩

end Cluster

namespace Registry

variable {r : Registry} {c : Cluster}

/-- There is a cluster exactly if there is a snapshot. -/
theorem isActive_iff_snapshot (r : Registry) :
    r.isActive = true ↔ ∃ snapshot, r.snapshot = .ok snapshot := by
  cases held : r.held with
  | none => simp [isActive, snapshot, require_of_free held, held, Except.map]
  | some c => simp [isActive, snapshot, require_of_held held, held, Except.map]

/-- A member is answered exactly if it is listed. -/
theorem node_eq_ok_iff_listed (held : r.held = some c) (coherent : c.Coherent) {id : UInt32}
    {m : Member} : r.node id = .ok m ↔ m ∈ c.members.values ∧ m.nodeId = id := by
  rw [node_eq_ok_iff, IdMap.mem_values_iff]
  constructor
  · rintro ⟨d, heldAlso, found⟩
    obtain rfl := Option.some.inj (held.symm.trans heldAlso)
    exact ⟨⟨id, found⟩, coherent.own_id id m found⟩
  · rintro ⟨⟨other, found⟩, rfl⟩
    obtain rfl := coherent.own_id other m found
    exact ⟨c, held, found⟩

/-- An endpoint is answered exactly if it is listed under the id asked for. -/
theorem endpoint_eq_ok_iff_listed (held : r.held = some c) (coherent : c.Coherent) {id : UInt32}
    {e : Endpoint} : r.endpoint id = .ok e ↔ (id, e) ∈ c.directory.endpoints.entries := by
  change _ ↔ (id, e) ∈ c.endpoints.entries
  rw [endpoint_eq_ok_iff, ← c.endpoints.get?_eq_some_iff]
  constructor
  · rintro ⟨d, heldAlso, -, registered⟩
    obtain rfl := Option.some.inj (held.symm.trans heldAlso)
    exact registered
  · intro registered
    have present := coherent.hasMember_of_endpoint id
      (c.endpoints.contains_eq_true_iff.mpr ⟨e, registered⟩)
    exact ⟨c, held, present, registered⟩

end Registry

/-! ## Movement -/

/-- What a call adds to a figure when it succeeds. -/
def Call.gain (now : Instant) (f : Figure) : Call → Nat
  | .create _ specs => (specs.map (f.weight.joining now)).sum
  | .add spec => f.weight.joining now spec
  | .register _ e => f.weight.endpoint e
  | .destroy | .remove _ | .isActive | .ensure | .snapshot | .node _ | .nodes | .endpoint _
  | .endpoints | .metrics => 0

namespace Registry

/-- The memory of the active members that are listed fits into 64 bits. -/
def MemoryFits (r : Registry) : Prop :=
  ∀ members, r.nodes = .ok members →
    ((members.filter (·.status = .active)).map (·.memoryMb.toNat)).sum < 2 ^ 64

/-- A figure as the metrics report it, zero if there is no cluster. -/
def figure (f : Figure) (r : Registry) : Nat :=
  r.metrics.toOption.elim 0 (·.figure f)

/-- What a call takes from a figure when it succeeds: what the node or the endpoint
that goes counted for. -/
def loss (f : Figure) (r : Registry) : Call → Nat
  | .destroy => r.figure f
  | .remove id =>
      (r.node id).toOption.elim 0 f.weight.member +
        (r.endpoint id).toOption.elim 0 f.weight.endpoint
  | .register id _ => (r.endpoint id).toOption.elim 0 f.weight.endpoint
  | .create .. | .add _ | .isActive | .ensure | .snapshot | .node _ | .nodes | .endpoint _
  | .endpoints | .metrics => 0

section

variable {r : Registry} {c : Cluster} (f : Figure)

theorem figure_of_free (free : r.held = none) : r.figure f = 0 := by
  rw [figure, metrics, require_of_free free]
  rfl

theorem figure_of_held (held : r.held = some c) (fits : r.MemoryFits) :
    r.figure f = c.weigh f.weight := by
  rw [figure, metrics, map_require_of_held held]
  exact c.figure_metrics (fits _ (nodes_of_held held)) f

theorem toOption_node_of_member (held : r.held = some c) {id : UInt32} {m : Member}
    (found : c.members.get? id = some m) : (r.node id).toOption = some m := by
  rw [node_of_held held, found]
  rfl

/-- A member that has no endpoint is answered like a stranger: with no endpoint. -/
theorem toOption_endpoint_of_member (held : r.held = some c) {id : UInt32} {m : Member}
    (found : c.members.get? id = some m) : (r.endpoint id).toOption = c.endpoints.get? id := by
  rw [endpoint_of_member held found]
  cases c.endpoints.get? id <;> rfl

end

/-- A call that succeeds moves every figure by what it adds less what it takes
away. -/
theorem figure_run {now : Instant} {r : Registry} {call : Call} {answer : call.Answer}
    (coherent : r.Coherent) (succeeded : (r.run now call).answer = .ok answer)
    (fits : r.MemoryFits) (fitsAfter : (r.run now call).registry.MemoryFits) (f : Figure) :
    (r.run now call).registry.figure f + r.loss f call = r.figure f + call.gain now f := by
  have effect := effect_run succeeded
  generalize (r.run now call).registry = next at effect fitsAfter ⊢
  cases effect with
  | @created name nodes c free distinct filled =>
      have joined := (Cluster.coherent_new name now).weigh_foldl_enroll f.weight now distinct
        fun spec _ => Cluster.get?_members_new name now spec.nodeId
      rw [filled, Cluster.weigh_new] at joined
      rw [figure_of_held f rfl fitsAfter, figure_of_free f free, loss, Call.gain, joined,
        Nat.add_zero]
  | destroyed held =>
      rw [figure_of_free f rfl, loss, Call.gain, Nat.zero_add, Nat.add_zero]
  | joined held absent =>
      rw [figure_of_held f rfl fitsAfter, figure_of_held f held fits,
        (coherent _ held).weigh_enroll f.weight now absent, loss, Call.gain, Nat.add_zero]
  | left held found =>
      rw [figure_of_held f rfl fitsAfter, figure_of_held f held fits, loss,
        toOption_node_of_member held found, toOption_endpoint_of_member held found]
      exact Cluster.weigh_leave f.weight found
  | registered held found =>
      rw [figure_of_held f rfl fitsAfter, figure_of_held f held fits, loss,
        toOption_endpoint_of_member held found]
      exact Cluster.weigh_setEndpoint f.weight _ _
  | answered query =>
      have still : r.loss f call = 0 ∧ call.gain now f = 0 := by
        cases call with
        | create | destroy | add | remove | register => contradiction
        | isActive | ensure | snapshot | node | nodes | endpoint | endpoints | metrics =>
            exact ⟨rfl, rfl⟩
      rw [still.1, still.2]

end Registry

end ControlPlane
