import ControlPlane.Proofs.Registry.Figures
import ControlPlane.Proofs.Registry.Transcript

/-!
# The answers of a lifetime balance

Whoever adds up the answers knows how many nodes and endpoints there are: a node
that joins is one more and brings perhaps an endpoint, a node that leaves is one
less and takes perhaps an endpoint with it, and an endpoint that is registered is
one more unless it replaces another.  Each step keeps the tables and the sums
together, from the creation of a cluster until it is destroyed.
-/

namespace ControlPlane

open ControlPlane.Time (Instant)

open Answered (joined? left? registered? size?)

namespace Cluster

/-- What an answer says about a call that made one cluster of another. -/
structure Tells (x : Answered) (c d : Cluster) : Prop where
  members : d.members.size + x.left?.elim 0 (fun _ => 1) =
    c.members.size + x.joined?.elim 0 fun _ => 1
  endpoints : d.endpoints.size + x.left?.elim 0 (·.endpointPruned.toNat) =
    c.endpoints.size + x.joined?.elim 0 (·.transport.isSome.toNat) +
      x.registered?.elim 0 (·.replaced.isNone.toNat)
  size : x.size?.getD c.members.size = d.members.size

/-- A cluster that had so many nodes and endpoints has what the answers since then
add up to, and the size that was reported last. -/
structure Balances (c : Cluster) (nodes endpoints : Nat) (told : List Answered) : Prop where
  members : c.members.size + (told.filterMap left?).length =
    nodes + (told.filterMap joined?).length
  endpoints : c.endpoints.size + (told.filterMap left?).countP (·.endpointPruned) =
    endpoints + (told.filterMap joined?).countP (·.transport.isSome) +
      (told.filterMap registered?).countP (·.replaced.isNone)
  size : (told.filterMap size?).getLast?.getD nodes = c.members.size

variable {c d : Cluster} {nodes endpoints : Nat} {told : List Answered}

theorem balances_nil (c : Cluster) : c.Balances c.members.size c.endpoints.size [] where
  members := rfl
  endpoints := rfl
  size := rfl

/-- One more answer, added to the sums. -/
theorem Balances.append (balances : c.Balances nodes endpoints told) {x : Answered}
    (tells : Tells x c d) : d.Balances nodes endpoints (told ++ [x]) where
  members := by
    have before := balances.members
    have change := tells.members
    simp only [Answered.length_filterMap_concat]
    omega
  endpoints := by
    have before := balances.endpoints
    have change := tells.endpoints
    simp only [Answered.countP_filterMap_concat]
    omega
  size := by
    rw [← tells.size, ← balances.size, List.filterMap_append, List.filterMap_cons,
      List.filterMap_nil]
    cases x.size? <;> simp

/-! ## What answers say -/

theorem tells_of_quiet (c : Cluster) {x : Answered} (quiet : x.Quiet) : Tells x c c where
  members := by rw [quiet.left, quiet.joined]; rfl
  endpoints := by rw [quiet.left, quiet.joined, quiet.registered]; rfl
  size := by rw [quiet.size]; rfl

theorem Coherent.tells_enroll (coherent : c.Coherent) (now : Instant) {spec : NodeSpec}
    (absent : c.members.get? spec.nodeId = none) :
    Tells ⟨.add spec, .ok ⟨spec.nodeId, (c.enroll now spec).members.size,
      spec.endpoint.map Endpoint.transport⟩⟩ c (c.enroll now spec) where
  members := by
    have grown := c.members.size_insert spec.nodeId (spec.enroll now)
    rw [c.members.contains_eq_false_iff.mpr absent] at grown
    rw [members_enroll]
    exact grown
  endpoints := by
    have silent := c.endpoints.contains_eq_false_iff.mpr (coherent.endpoint_of_absent absent)
    rw [endpoints_enroll]
    cases spec.endpoint with
    | none => rfl
    | some e =>
        have grown := c.endpoints.size_insert spec.nodeId e
        rw [silent] at grown
        exact grown
  size := rfl

theorem tells_leave {id : UInt32} {m : Member} (found : c.members.get? id = some m) :
    Tells ⟨.remove id, .ok ⟨id, (c.leave id).members.size, c.endpoints.contains id⟩⟩ c
      (c.leave id) where
  members := by
    have shrunk := c.members.size_erase id
    rw [c.members.contains_eq_true_iff.mpr ⟨m, found⟩] at shrunk
    exact shrunk
  endpoints := c.endpoints.size_erase id
  size := rfl

theorem tells_setEndpoint (c : Cluster) (id : UInt32) (e : Endpoint) :
    Tells ⟨.register id e, .ok ⟨id, e.transport, (c.endpoints.get? id).map Endpoint.transport⟩⟩ c
      (c.setEndpoint id e) where
  members := rfl
  endpoints := by
    have grown := c.endpoints.size_insert id e
    rw [IdMap.contains] at grown
    change (c.endpoints.insert id e).size = c.endpoints.size + Bool.toNat _
    cases replaced : c.endpoints.get? id with
    | none => rwa [replaced] at grown
    | some old =>
        rw [replaced] at grown
        exact Nat.add_right_cancel grown
  size := rfl

end Cluster

namespace Registry

variable {r : Registry} {c : Cluster} {nodes endpoints : Nat} {told : List Answered}

/-- A call that does not end the cluster does to it what its answer says. -/
theorem tells_run (coherent : r.Coherent) (held : r.held = some c) (now : Instant) {call : Call}
    (lasting : call ≠ .destroy) :
    ∃ d, (r.run now call).registry.held = some d ∧
      Cluster.Tells ⟨call, (r.run now call).answer⟩ c d := by
  cases answered : (r.run now call).answer with
  | error e =>
      rw [registry_of_failed answered]
      exact ⟨c, held, c.tells_of_quiet (Answered.quiet_of_failed call e)⟩
  | ok answer =>
      have effect := effect_run answered
      generalize (r.run now call).registry = next at effect ⊢
      cases effect with
      | created free =>
          rw [held] at free
          contradiction
      | destroyed => contradiction
      | joined heldAlso absent =>
          obtain rfl := Option.some.inj (held.symm.trans heldAlso)
          exact ⟨_, rfl, (coherent c held).tells_enroll now absent⟩
      | left heldAlso found =>
          obtain rfl := Option.some.inj (held.symm.trans heldAlso)
          exact ⟨_, rfl, Cluster.tells_leave found⟩
      | registered heldAlso found =>
          obtain rfl := Option.some.inj (held.symm.trans heldAlso)
          exact ⟨_, rfl, c.tells_setEndpoint _ _⟩
      | answered query => exact ⟨c, held, c.tells_of_quiet (Answered.quiet_of_query query _)⟩

/-- As long as nobody destroys the cluster, it has what the answers add up to. -/
theorem balances_runAll (balances : c.Balances nodes endpoints told) (coherent : r.Coherent)
    (held : r.held = some c) {calls : List (Instant × Call)}
    (lasting : ∀ entry ∈ calls, entry.2 ≠ .destroy) :
    ∃ d, (r.runAll calls).held = some d ∧
      d.Balances nodes endpoints (told ++ r.transcript calls) := by
  induction calls generalizing r c told with
  | nil => exact ⟨c, held, by simpa [transcript] using balances⟩
  | cons first rest ih =>
      obtain ⟨now, call⟩ := first
      obtain ⟨next, heldNext, tells⟩ := tells_run coherent held now (lasting _ List.mem_cons_self)
      obtain ⟨d, heldLast, balancesLast⟩ := ih (balances.append tells) (coherent.run now call)
        heldNext fun entry entryMem => lasting entry (List.mem_cons_of_mem _ entryMem)
      exact ⟨d, heldLast, by rwa [List.append_assoc] at balancesLast⟩

/-! ## From the creation to the end -/

/-- A cluster begins with the endpoints of the nodes it is created with. -/
theorem exists_of_founded {start : Instant} {name : String} {specs : List NodeSpec}
    {summary : ClusterSummary}
    (founded : (r.run start (.create name specs)).answer = .ok summary) :
    ∃ c, (r.run start (.create name specs)).registry = ⟨some c⟩ ∧ c.Coherent ∧
      c.members.size = summary.nodes ∧ c.endpoints.size = specs.countP (·.endpoint.isSome) := by
  have effect := effect_run founded
  generalize (r.run start (.create name specs)).registry = founding at effect ⊢
  cases effect with
  | @created _ _ c free distinct filled =>
      have coherent := Cluster.coherent_new name start
      have joined := coherent.weigh_foldl_enroll .endpoints start distinct
        fun spec _ => Cluster.get?_members_new name start spec.nodeId
      rw [filled, c.weigh_endpoints, Cluster.weigh_new, Weight.sum_joining_endpoints,
        Nat.zero_add] at joined
      exact ⟨c, rfl, filled ▸ coherent.foldl_enroll start specs, rfl, joined⟩
  | answered query => contradiction

/-- What a registration replaced is the endpoint that was there before. -/
theorem replaced_eq_some_iff {now : Instant} {id : UInt32} {e : Endpoint}
    {answer : EndpointRegistered}
    (succeeded : (r.run now (.register id e)).answer = .ok answer) {t : Transport} :
    answer.replaced = some t ↔ ∃ old, r.endpoint id = .ok old ∧ old.transport = t := by
  have effect := effect_run succeeded
  generalize (r.run now (.register id e)).registry = next at effect
  cases effect with
  | registered held found =>
      rw [endpoint_of_member held found, Option.map_eq_some_iff]
      cases Cluster.endpoints _ |>.get? id <;> simp
  | answered query => contradiction

/-- From the creation of a cluster to its end, the answers tell what there is.  At the
end as many nodes are dropped as it was created with, and as joined since, less those that
left; and as many endpoints as the first nodes brought, and as came since with nodes that
joined or were registered without replacing another, less those that went with their nodes.
At every point before, the listing has the nodes that the answers so far add up to, which is
also the size that was reported last; and a registration tells the transport of the
endpoint that it replaces, if there is one. -/
theorem lifetime_balances {start : Instant} {name : String} {specs : List NodeSpec}
    {summary : ClusterSummary}
    (founded : (r.run start (.create name specs)).answer = .ok summary)
    {during : List (Instant × Call)} (lasting : ∀ entry ∈ during, entry.2 ≠ .destroy)
    (finish : Instant) :
    let founding := (r.run start (.create name specs)).registry
    let joined := (founding.transcript during).filterMap joined?
    let left := (founding.transcript during).filterMap left?
    let registered := (founding.transcript during).filterMap registered?
    (∃ dropped, ((founding.runAll during).run finish .destroy).answer = .ok dropped ∧
      dropped.nodesDropped + left.length = summary.nodes + joined.length ∧
      dropped.endpointsDropped + left.countP (·.endpointPruned) =
        specs.countP (·.endpoint.isSome) + joined.countP (·.transport.isSome) +
          registered.countP (·.replaced.isNone)) ∧
    (∀ before after, during = before ++ after →
      let told := founding.transcript before
      ∃ members, (founding.runAll before).nodes = .ok members ∧
        members.length + (told.filterMap left?).length =
          summary.nodes + (told.filterMap joined?).length ∧
        (told.filterMap size?).getLast?.getD summary.nodes = members.length) ∧
    ∀ before now id e answer,
      ((founding.runAll before).run now (.register id e)).answer = .ok answer →
        ∀ t, answer.replaced = some t ↔
          ∃ old, (founding.runAll before).endpoint id = .ok old ∧ old.transport = t := by
  intro founding joined left registered
  obtain ⟨c, foundingEq, coherent, nodesEq, endpointsEq⟩ := exists_of_founded founded
  have heldFounding : founding.held = some c := congrArg held foundingEq
  have coherentFounding : founding.Coherent := by
    intro d heldAlso
    obtain rfl := Option.some.inj (heldFounding.symm.trans heldAlso)
    exact coherent
  have balancesAt : ∀ calls : List (Instant × Call), (∀ entry ∈ calls, entry.2 ≠ .destroy) →
      ∃ d, (founding.runAll calls).held = some d ∧
        d.Balances summary.nodes (specs.countP (·.endpoint.isSome)) (founding.transcript calls) :=
    fun calls lastingCalls => nodesEq ▸ endpointsEq ▸
      balances_runAll c.balances_nil coherentFounding heldFounding lastingCalls
  refine ⟨?atTheEnd, ?before, ?registrations⟩
  case atTheEnd =>
    obtain ⟨d, heldLast, balances⟩ := balancesAt during lasting
    refine ⟨d.remains, ?_, balances.members, balances.endpoints⟩
    simp [run, destroy, heldLast]
  case before =>
    intro before after split told
    have lastingBefore : ∀ entry ∈ before, entry.2 ≠ .destroy := fun entry entryMem =>
      lasting entry (split ▸ List.mem_append_left after entryMem)
    obtain ⟨d, heldThen, balances⟩ := balancesAt before lastingBefore
    refine ⟨d.members.values, nodes_of_held heldThen, ?_⟩
    rw [d.members.length_values]
    exact ⟨balances.members, balances.size⟩
  case registrations =>
    intro before now id e answer succeeded t
    exact replaced_eq_some_iff succeeded

/-- Of two nodes one leaves with its endpoint; another joins with one, and the one that
stays registers an endpoint and then a faster one in its place. -/
theorem lifetime_balances_of_replacement :
    let spec : UInt32 → Option Endpoint → NodeSpec := fun id endpoint =>
      { nodeId := id, hostname := "h", ipAddress := "i", rdmaGid := none, cpuCount := 4,
        memoryMb := 8, status := none, endpoint }
    let create : Call := .create "c" [spec 1 (some (.tcp "a" 1)), spec 2 none]
    let during : List (Instant × Call) :=
      [(.epoch, .add (spec 3 (some (.tcp "b" 2)))), (.epoch, .register 2 (.tcp "c" 3)),
        (.epoch, .register 2 (.rdma 4 5 "d" 6)), (.epoch, .remove 1), (.epoch, .remove 9)]
    (empty.run .epoch create).answer = .ok ⟨"c", 2, 0, 0⟩ ∧
      (∀ entry ∈ during, entry.2 ≠ .destroy) ∧
      ∃ dropped : ClusterDestroyed,
        (((empty.run .epoch create).registry.runAll during).run .epoch .destroy).answer =
          .ok dropped ∧
        dropped.nodesDropped + 1 = 2 + 1 ∧ dropped.endpointsDropped + 1 = 1 + 1 + 1 := by
  intro spec create during
  have founded : (empty.run .epoch create).answer = .ok ⟨"c", 2, 0, 0⟩ := rfl
  have lasting : ∀ entry ∈ during, entry.2 ≠ .destroy := by decide
  exact ⟨founded, lasting, (lifetime_balances founded lasting .epoch).1⟩

end Registry

end ControlPlane
