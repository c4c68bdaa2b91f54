import ControlPlane.Proofs.Cluster.Table
import ControlPlane.Proofs.Registry.Coherence
import ControlPlane.Proofs.Registry.Undated

/-!
# A node that is gone leaves no trace

Take a run of calls on the nodes of one cluster, and the same run without the
calls that name a certain node.  At every point the registry of the shorter run is
the one of the longer run without that node, so that the two are equal wherever
the node is no member.  The calls that both runs make have the same answers,
except for figures about the whole cluster that count the node in.
-/

namespace ControlPlane

open ControlPlane.Time (Instant)

/-! ## Clusters without a node -/

namespace Cluster

variable (c : Cluster) {id other : UInt32}

theorem hasMember_leave_of_ne (ne : other ≠ id) :
    (c.leave id).hasMember other = c.hasMember other := by
  rw [hasMember, hasMember, IdMap.contains, get?_members_leave, if_neg ne, IdMap.contains]

theorem leave_leave_self : (c.leave id).leave id = c.leave id := by
  simp only [leave, IdMap.erase_erase_self]

theorem leave_comm (id other : UInt32) : (c.leave other).leave id = (c.leave id).leave other := by
  simp only [leave, c.members.erase_comm id other, c.endpoints.erase_comm id other]

theorem leave_setEndpoint_self (e : Endpoint) : (c.setEndpoint id e).leave id = c.leave id := by
  simp only [leave, setEndpoint, IdMap.erase_insert_self]

theorem leave_setEndpoint_of_ne (ne : other ≠ id) (e : Endpoint) :
    (c.setEndpoint other e).leave id = (c.leave id).setEndpoint other e := by
  simp only [leave, setEndpoint, IdMap.erase_insert_of_ne _ ne]

theorem leave_enroll_self (now : Instant) {spec : NodeSpec} (own : spec.nodeId = id) :
    (c.enroll now spec).leave id = c.leave id := by
  subst own
  unfold enroll join
  cases spec.endpoint <;> simp [leave, setEndpoint, IdMap.erase_insert_self]

theorem leave_enroll_of_ne (now : Instant) {spec : NodeSpec} (ne : spec.nodeId ≠ id) :
    (c.enroll now spec).leave id = (c.leave id).enroll now spec := by
  unfold enroll join
  cases spec.endpoint <;> simp [leave, setEndpoint, IdMap.erase_insert_of_ne _ ne]

variable {c}

/-- Without a node that is no member a coherent cluster is what it was: there is
no endpoint of that node either. -/
theorem Coherent.leave_of_absent (coherent : c.Coherent) (absent : c.members.get? id = none) :
    c.leave id = c := by
  have silent := coherent.endpoint_of_absent absent
  simp only [Cluster.leave, IdMap.erase_of_absent _ absent, IdMap.erase_of_absent _ silent]

end Cluster

/-! ## Calls apart from a node -/

namespace Call

/-- The node that a call names. -/
def named? : Call → Option UInt32
  | add spec => some spec.nodeId
  | remove id | register id _ | node id | endpoint id => some id
  | create .. | destroy | isActive | ensure | snapshot | nodes | endpoints | metrics => none

/-- Is the call about the nodes of the cluster that is held?  All calls are but
the ones that create and destroy clusters. -/
def isNodeLevel : Call → Bool
  | create .. | destroy => false
  | add .. | remove .. | register .. | isActive | ensure | snapshot | node .. | nodes
  | endpoint .. | endpoints | metrics => true

/-- An answer apart from a node: the figures about the whole cluster are left
out, and the node is left out of listings. -/
def apart (id : UInt32) : (call : Call) → call.Answer → call.Answer
  | .add _, a => { (a : NodeAdded) with clusterSize := 0 }
  | .remove _, a => { (a : NodeRemoved) with remaining := 0 }
  | .snapshot, s =>
      { (s : ClusterSnapshot) with nodes := 0, activeNodes := 0, totalMemoryMb := 0, totalVcpus := 0 }
  | .nodes, ms => List.filter (fun m : Member => m.nodeId ≠ id) ms
  | .endpoints, d =>
      { (d : EndpointDirectory) with endpoints := (d : EndpointDirectory).endpoints.erase id }
  | .metrics, m =>
      { (m : ClusterMetrics) with
        totalNodes := 0, activeNodes := 0, totalMemoryMb := 0, totalVcpus := 0,
        tcpEndpoints := 0, rdmaEndpoints := 0 }
  | .create .., a | .destroy, a | .register .., a | .isActive, a | .ensure, a | .node _, a
  | .endpoint _, a => a

end Call

namespace Registry

/-- The registry without a node. -/
def without (id : UInt32) (r : Registry) : Registry :=
  ⟨r.held.map (·.leave id)⟩

variable {now : Instant} {r r' : Registry} {call : Call} {id : UInt32}

theorem without_of_absent (coherent : r.Coherent) (absent : r.node id = .error (.nodeNotFound id)) :
    r.without id = r := by
  obtain ⟨_ | c⟩ := r
  · rfl
  · rw [node_of_held rfl] at absent
    cases found : c.members.get? id with
    | none => simp only [without, Option.map_some, (coherent c rfl).leave_of_absent found]
    | some m =>
        rw [found] at absent
        contradiction

/-! ## Calls that name the node -/

/-- A call that names a node changes nothing apart from that node. -/
theorem Step.without_of_named {failure : Option Error} (step : Step now r call failure r')
    (named : call.named? = some id) : r'.without id = r.without id := by
  cases step with
  | created | destroyed => contradiction
  | joined held absent =>
      obtain rfl := Option.some.inj named
      simp only [without, held, Option.map_some, Cluster.leave_enroll_self _ _ rfl]
  | left held present =>
      obtain rfl := Option.some.inj named
      simp only [without, held, Option.map_some, Cluster.leave_leave_self]
  | registered held present =>
      obtain rfl := Option.some.inj named
      simp only [without, held, Option.map_some, Cluster.leave_setEndpoint_self]
  | answered | refused => rfl

/-! ## Calls that do not name the node -/

/-- What a call leads to in a registry without a node agrees with what it leads to
in the registry with that node. -/
structure Agrees (id : UInt32) (call : Call) (brief full : Outcome call.Answer) : Prop where
  answer : brief.answer.map (call.apart id) = full.answer.map (call.apart id)
  registry : brief.registry = full.registry.without id
  events : brief.events = full.events

private theorem agrees_add {spec : NodeSpec} (other : spec.nodeId ≠ id) :
    Agrees id (.add spec) ((r.without id).add now spec) (r.add now spec) := by
  obtain ⟨_ | c⟩ := r
  · exact ⟨rfl, rfl, rfl⟩
  · simp only [add, without, Option.map_some, c.hasMember_leave_of_ne other]
    split
    · exact ⟨rfl, rfl, rfl⟩
    · have joined := congrArg (fun d => Registry.mk (some d)) (c.leave_enroll_of_ne now other)
      exact ⟨rfl, joined.symm, rfl⟩

private theorem agrees_remove {target : UInt32} (other : target ≠ id) :
    Agrees id (.remove target) ((r.without id).remove target) (r.remove target) := by
  obtain ⟨_ | c⟩ := r
  · exact ⟨rfl, rfl, rfl⟩
  · have found : (c.leave id).members.get? target = c.members.get? target := by
      rw [Cluster.get?_members_leave, if_neg other]
    have pruned : (c.leave id).endpoints.contains target = c.endpoints.contains target := by
      rw [IdMap.contains, Cluster.get?_endpoints_leave, if_neg other, IdMap.contains]
    simp only [remove, without, Option.map_some, found, pruned]
    cases c.members.get? target with
    | none => exact ⟨rfl, rfl, rfl⟩
    | some m =>
        have left := congrArg (fun d => Registry.mk (some d)) (c.leave_comm id target)
        exact ⟨rfl, left.symm, rfl⟩

private theorem agrees_register {target : UInt32} (other : target ≠ id) (e : Endpoint) :
    Agrees id (.register target e) ((r.without id).register target e) (r.register target e) := by
  obtain ⟨_ | c⟩ := r
  · exact ⟨rfl, rfl, rfl⟩
  · have replaced : (c.leave id).endpoints.get? target = c.endpoints.get? target := by
      rw [Cluster.get?_endpoints_leave, if_neg other]
    simp only [register, without, Option.map_some, c.hasMember_leave_of_ne other, replaced]
    split
    · exact ⟨rfl, rfl, rfl⟩
    · have registered := congrArg (fun d => Registry.mk (some d))
        (c.leave_setEndpoint_of_ne other e)
      exact ⟨rfl, registered.symm, rfl⟩

private theorem node_without {target : UInt32} (other : target ≠ id) :
    (r.without id).node target = r.node target := by
  obtain ⟨_ | c⟩ := r
  · rfl
  · have heldWithout : (without id ⟨some c⟩).held = some (c.leave id) := rfl
    rw [node_of_held heldWithout, node_of_held rfl, Cluster.get?_members_leave, if_neg other]

private theorem endpoint_without {target : UInt32} (other : target ≠ id) :
    (r.without id).endpoint target = r.endpoint target := by
  obtain ⟨_ | c⟩ := r
  · rfl
  · have heldWithout : (without id ⟨some c⟩).held = some (c.leave id) := rfl
    have found : (c.leave id).members.get? target = c.members.get? target := by
      rw [Cluster.get?_members_leave, if_neg other]
    cases present : c.members.get? target with
    | none =>
        rw [endpoint_of_stranger rfl present]
        exact endpoint_of_stranger heldWithout (found.trans present)
    | some m =>
        rw [endpoint_of_member rfl present, endpoint_of_member heldWithout (found.trans present),
          Cluster.get?_endpoints_leave, if_neg other]

/-- A query gives an answer that agrees if its answer does. -/
private theorem agrees_answered {answer answer' : Except Error call.Answer}
    (same : answer'.map (call.apart id) = answer.map (call.apart id)) :
    Agrees id call ((r.without id).answered answer') (r.answered answer) :=
  ⟨same, rfl, rfl⟩

/-- A call on the nodes of the cluster that does not name a certain node does not
depend on it, apart from figures about the whole cluster. -/
theorem agrees_run (now : Instant) (coherent : r.Coherent) (nodeLevel : call.isNodeLevel = true)
    (other : call.named? ≠ some id) :
    Agrees id call ((r.without id).run now call) (r.run now call) := by
  cases call with
  | create | destroy => contradiction
  | add spec => exact agrees_add fun own => other (congrArg some own)
  | remove target => exact agrees_remove fun own => other (congrArg some own)
  | register target e => exact agrees_register (fun own => other (congrArg some own)) e
  | node target =>
      apply agrees_answered
      rw [node_without fun own => other (congrArg some own)]
  | endpoint target =>
      apply agrees_answered
      rw [endpoint_without fun own => other (congrArg some own)]
  | isActive | ensure | snapshot | metrics =>
      obtain ⟨_ | c⟩ := r <;> exact ⟨rfl, rfl, rfl⟩
  | nodes =>
      obtain ⟨_ | c⟩ := r
      · exact ⟨rfl, rfl, rfl⟩
      · have left := c.members.values_erase (·.nodeId) (coherent c rfl).own_id id
        apply agrees_answered
        apply congrArg Except.ok
        change List.filter _ (c.members.erase id).values = List.filter _ c.members.values
        rw [left, List.filter_filter]
        simp
  | endpoints =>
      obtain ⟨_ | c⟩ := r
      · exact ⟨rfl, rfl, rfl⟩
      · have left := c.endpoints.erase_erase_self id
        apply agrees_answered
        apply congrArg Except.ok
        exact congrArg (EndpointDirectory.mk c.name) left

/-! ## Runs -/

/-- The calls of a run that do not name a node. -/
def sparing (id : UInt32) (calls : List (Instant × Call)) : List (Instant × Call) :=
  calls.filter fun entry => entry.2.named? ≠ some id

/-- At the end of a run without the calls that name a node, the registry is the
one at the end of the whole run without that node. -/
theorem runAll_without (coherent : r.Coherent) {calls : List (Instant × Call)}
    (nodeLevel : ∀ entry ∈ calls, entry.2.isNodeLevel = true) :
    (r.without id).runAll (sparing id calls) = (r.runAll calls).without id := by
  induction calls generalizing r with
  | nil => rfl
  | cons first rest ih =>
      obtain ⟨now, call⟩ := first
      have step := step_run now r call
      have coherentNext := coherent.run now call
      have nodeLevelRest := fun entry entryMem => nodeLevel entry (List.mem_cons_of_mem _ entryMem)
      by_cases named : call.named? = some id
      · have skipped : sparing id ((now, call) :: rest) = sparing id rest := by
          simp [sparing, named]
        rw [skipped, ← step.without_of_named named, runAll_cons]
        exact ih coherentNext nodeLevelRest
      · have kept : sparing id ((now, call) :: rest) = (now, call) :: sparing id rest := by
          simp [sparing, named]
        have agrees := agrees_run now coherent (nodeLevel _ List.mem_cons_self) named
        rw [kept, runAll_cons, agrees.registry, runAll_cons]
        exact ih coherentNext nodeLevelRest

/-- A call of the shorter run is a call of the whole run, and what the shorter run
does before it is what the whole run does before it, without the calls that name
the node. -/
theorem exists_call_of_sparing {calls : List (Instant × Call)} {earlier later : List Call}
    (split : (sparing id calls).map Prod.snd = earlier ++ call :: later) :
    ∃ pre now post, calls = pre ++ (now, call) :: post ∧ call.named? ≠ some id ∧
      (sparing id pre).map Prod.snd = earlier := by
  obtain ⟨front, back, splitBoth, rfl, backEq⟩ := List.map_eq_append_iff.mp split
  obtain ⟨⟨now, kept⟩, tail, rfl, rfl, -⟩ := List.map_eq_cons_iff.mp backEq
  obtain ⟨pre, rest, rfl, rfl, restEq⟩ := List.filter_eq_append_iff.mp splitBoth
  obtain ⟨skipped, post, rfl, named, keptOther, -⟩ := List.filter_eq_cons_iff.mp restEq
  refine ⟨pre ++ skipped, now, post, (List.append_assoc ..).symm, of_decide_eq_true keptOther, ?_⟩
  rw [sparing, List.filter_append, List.filter_eq_nil_iff.mpr named, List.append_nil]

/-- Leaving a node out of an answer and leaving out the instants do not
interfere. -/
theorem apart_undated (call : Call) (answer : call.Answer) :
    call.apart id (call.undated answer) = call.undated (call.apart id answer) := by
  cases call with
  | nodes => exact List.filter_map
  | _ => rfl

theorem map_undated_apart {answer answer' : Except Error call.Answer}
    (same : answer.map (call.apart id) = answer'.map (call.apart id)) :
    (answer.map call.undated).map (call.apart id) =
      (answer'.map call.undated).map (call.apart id) := by
  have exchange : ∀ answer : Except Error call.Answer,
      (answer.map call.undated).map (call.apart id) =
        (answer.map (call.apart id)).map call.undated := by
    rintro (e | answer)
    · rfl
    · exact congrArg Except.ok (apart_undated call answer)
  rw [exchange, exchange, same]

/-- A node that is no member at the start of a run on the nodes of a cluster, and
none at the end, leaves no trace: without the calls that name it, made at whatever
instants, the run ends in the same registry.  Each call that is left has the same
answer, apart from the node and from figures about the whole cluster, and has
those too if the node was no member when the call was made. -/
theorem departed_leaves_no_trace (before calls short : List (Instant × Call)) (id : UInt32)
    (absent : (empty.runAll before).node id = .error (.nodeNotFound id))
    (nodeLevel : ∀ entry ∈ calls, entry.2.isNodeLevel = true)
    (gone : ((empty.runAll before).runAll calls).node id = .error (.nodeNotFound id))
    (shortened : short.map Prod.snd = (sparing id calls).map Prod.snd) :
    let start := empty.runAll before
    (start.runAll short).undated = (start.runAll calls).undated ∧
    ∀ earlier now call later, short = earlier ++ (now, call) :: later →
      ∃ pre moment post, calls = pre ++ (moment, call) :: post ∧
        earlier.map Prod.snd = (sparing id pre).map Prod.snd ∧
        let brief := ((start.runAll earlier).run now call).answer.map call.undated
        let full := ((start.runAll pre).run moment call).answer.map call.undated
        brief.map (call.apart id) = full.map (call.apart id) ∧
        ((start.runAll pre).node id = .error (.nodeNotFound id) → brief = full) := by
  intro start
  have coherent : start.Coherent := coherent_empty.runAll before
  have startWithout : start.without id = start := without_of_absent coherent absent
  constructor
  · calc
      (start.runAll short).undated = (start.runAll (sparing id calls)).undated :=
        undated_runAll rfl shortened
      _ = ((start.runAll calls).without id).undated := by
        rw [← runAll_without coherent nodeLevel, startWithout]
      _ = (start.runAll calls).undated := by
        rw [without_of_absent (coherent.runAll calls) gone]
  · intro earlier now call later split
    rw [split, List.map_append, List.map_cons] at shortened
    obtain ⟨pre, moment, post, splitCalls, other, same⟩ := exists_call_of_sparing shortened.symm
    refine ⟨pre, moment, post, splitCalls, same.symm, ?_⟩
    have nodeLevelPre : ∀ entry ∈ pre, entry.2.isNodeLevel = true := by
      intro entry entryMem
      apply nodeLevel entry
      rw [splitCalls]
      exact List.mem_append_left _ entryMem
    have nodeLevelCall : call.isNodeLevel = true := by
      apply nodeLevel (moment, call)
      rw [splitCalls]
      exact List.mem_append_right _ List.mem_cons_self
    have coherentPre : (start.runAll pre).Coherent := coherent.runAll pre
    have alike : (start.runAll earlier).undated = ((start.runAll pre).without id).undated := by
      rw [← runAll_without coherent nodeLevelPre, startWithout]
      exact undated_runAll rfl same.symm
    have answers := undated_answer_run now moment alike call
    intro brief full
    constructor
    · have agrees := agrees_run moment coherentPre nodeLevelCall other
      exact (congrArg (Except.map (call.apart id)) answers).trans (map_undated_apart agrees.answer)
    · intro absentThen
      rw [without_of_absent coherentPre absentThen] at answers
      exact answers

/-- Two calls that name the node come and go between two that do not. -/
theorem departed_leaves_no_trace_between :
    let spec : UInt32 → NodeSpec := fun id =>
      { nodeId := id, hostname := "h", ipAddress := "i", rdmaGid := none, cpuCount := 1,
        memoryMb := 2, status := none, endpoint := some (.tcp "a" 1) }
    let before := [(Instant.epoch, Call.create "c" [spec 1])]
    let calls := [(Instant.epoch, Call.add (spec 2)), (.epoch, .snapshot), (.epoch, .remove 2),
      (.epoch, .nodes)]
    let short := [(Instant.epoch, Call.snapshot), (.epoch, .nodes)]
    (empty.runAll before).node 2 = .error (.nodeNotFound 2) ∧
      (∀ entry ∈ calls, entry.2.isNodeLevel = true) ∧
      ((empty.runAll before).runAll calls).node 2 = .error (.nodeNotFound 2) ∧
      short.map Prod.snd = (sparing 2 calls).map Prod.snd ∧
      ((empty.runAll before).runAll short).undated =
        ((empty.runAll before).runAll calls).undated := by
  intro spec before calls short
  have absent : (empty.runAll before).node 2 = .error (.nodeNotFound 2) := rfl
  have nodeLevel : ∀ entry ∈ calls, entry.2.isNodeLevel = true := by decide
  have gone : ((empty.runAll before).runAll calls).node 2 = .error (.nodeNotFound 2) := rfl
  have shortened : short.map Prod.snd = (sparing 2 calls).map Prod.snd := rfl
  exact ⟨absent, nodeLevel, gone, shortened,
    (departed_leaves_no_trace before calls short 2 absent nodeLevel gone shortened).1⟩

end Registry

end ControlPlane
