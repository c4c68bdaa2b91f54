import ControlPlane.Proofs.Registry.Batch
import ControlPlane.Proofs.Registry.Locality
import Mathlib.Data.List.Nodup

/-!
# Commands in another order

What commands about nodes lead to does not depend on how the commands about
different nodes are interleaved: two lists of them that agree on the commands
about each node, and on their order, lead to registries that are alike apart from
instants.  Two commands about different nodes may therefore change places, and
the nodes that a cluster is created with may be listed in any order.
-/

namespace ControlPlane

open ControlPlane.Time (Instant)

/-! ## Orders of calls -/

/-- Calls about nodes are made in another order that keeps the order of the calls
about each node: whichever node one looks at, the calls about it are the same ones,
one after another. -/
def Reordered (calls others : List Call) : Prop :=
  ∀ id, calls.filter (·.target? = some id) = others.filter (·.target? = some id)

/-- Two calls about different nodes may change places. -/
theorem reordered_swap {first second : Call} {id other : UInt32}
    (firstTarget : first.target? = some id) (secondTarget : second.target? = some other)
    (ne : id ≠ other) : Reordered [first, second] [second, first] := by
  intro node
  by_cases own : id = node
  · subst own
    simp [firstTarget, secondTarget, Ne.symm ne]
  · simp [firstTarget, own, List.filter_cons]

/-! ## Nodes that join -/

namespace Cluster

/-- Two different nodes may join in either order. -/
theorem enroll_comm (now : Instant) (c : Cluster) {first second : NodeSpec}
    (ne : first.nodeId ≠ second.nodeId) :
    (c.enroll now first).enroll now second = (c.enroll now second).enroll now first := by
  rcases first with ⟨_, _, _, _, _, _, _, _ | e⟩ <;>
    rcases second with ⟨_, _, _, _, _, _, _, _ | f⟩ <;>
      simp [enroll, join, setEndpoint, IdMap.insert_comm _ ne]

/-- Distinct nodes may join in any order. -/
theorem foldl_enroll_of_perm (now : Instant) (c : Cluster) {nodes permuted : List NodeSpec}
    (distinct : (nodes.map (·.nodeId)).Nodup) (same : nodes.Perm permuted) :
    nodes.foldl (enroll now) c = permuted.foldl (enroll now) c := by
  refine same.foldl_eq' (fun first firstMem second secondMem d => ?_) c
  by_cases own : first.nodeId = second.nodeId
  · rw [List.inj_on_of_nodup_map distinct firstMem secondMem own]
  · exact (enroll_comm now d own)

end Cluster

/-! ## Answers -/

namespace Call

/-- An answer without the size of the cluster. -/
def unsized : (call : Call) → call.Answer → call.Answer
  | .add _, a => { (a : NodeAdded) with clusterSize := 0 }
  | .remove _, a => { (a : NodeRemoved) with remaining := 0 }
  | .create .., a | .destroy, a | .register .., a | .isActive, a | .ensure, a | .snapshot, a
  | .node _, a | .nodes, a | .endpoint _, a | .endpoints, a | .metrics, a => a

variable {call : Call} {id : UInt32}

/-- A command about a node names the node, and all that its answer says about the
cluster is the size. -/
theorem of_target? (target : call.target? = some id) :
    call.named? = some id ∧ (∀ other, call.apart other = call.unsized) ∧
      call.undated = fun answer => answer := by
  cases call with
  | add | remove | register => exact ⟨target, fun _ => rfl, rfl⟩
  | create | destroy | isActive | ensure | snapshot | node | nodes | endpoint | endpoints
  | metrics => contradiction

end Call

namespace Registry

variable {r : Registry}

/-- A command about one node is answered alike before and after a command about
another, apart from the size of the cluster. -/
theorem answer_run_of_other (coherent : r.Coherent) {call between : Call} {id other : UInt32}
    (target : call.target? = some id) (elsewhere : between.target? = some other)
    (ne : id ≠ other) (now start later : Instant) :
    (r.run now call).answer.map call.unsized =
      ((r.run start between).registry.run later call).answer.map call.unsized := by
  obtain ⟨named, apart, undated⟩ := Call.of_target? target
  have unnamed : call.named? ≠ some other := by
    rw [named]
    exact fun same => ne (Option.some.inj same)
  have without : (r.run start between).registry.without other = r.without other :=
    (step_run start r between).without_of_named (Call.of_target? elsewhere).1
  have before := (agrees_run now coherent (Call.isNodeLevel_of_target? target) unnamed).answer
  have after := (agrees_run later (coherent.run start between)
    (Call.isNodeLevel_of_target? target) unnamed).answer
  have instants := undated_answer_run now later (rfl : (r.without other).undated = _) call
  -- A command about a node is answered without instants, so undating changes nothing.
  have plain : ∀ answer : Except Error call.Answer, answer.map call.undated = answer := by
    rw [undated]
    rintro (e | answer) <;> rfl
  rw [plain, plain] at instants
  rw [without] at after
  rw [← apart other, ← before, ← after, instants]

/-! ## Registries -/

/-- Calls on nodes that are made in another order, all at one instant, lead to the same
registry. -/
theorem runAll_of_reordered (coherent : r.Coherent) (now : Instant) {calls others : List Call}
    (nodeLevel : ∀ call ∈ calls, call.isNodeLevel = true)
    (nodeLevelToo : ∀ call ∈ others, call.isNodeLevel = true)
    (reordered : Reordered calls others) :
    r.runAll (calls.map fun call => (now, call)) =
      r.runAll (others.map fun call => (now, call)) := by
  have nodeLevelCalls : ∀ entry ∈ calls.map fun call => (now, call),
      entry.2.isNodeLevel = true :=
    List.forall_mem_map.mpr nodeLevel
  have nodeLevelOthers : ∀ entry ∈ others.map fun call => (now, call),
      entry.2.isNodeLevel = true :=
    List.forall_mem_map.mpr nodeLevelToo
  cases held : r.held with
  | none => rw [runAll_of_free held nodeLevelCalls, runAll_of_free held nodeLevelOthers]
  | some c =>
      obtain ⟨d, heldCalls, name, createdAt, kept⟩ :=
        runAll_enrolment? coherent held nodeLevelCalls
      obtain ⟨e, heldOthers, nameToo, createdAtToo, keptToo⟩ :=
        runAll_enrolment? coherent held nodeLevelOthers
      have concerned : ∀ id, about id (calls.map fun call => (now, call)) =
          about id (others.map fun call => (now, call)) := by
        intro id
        have same := congrArg (List.map fun call => (now, call)) (reordered id)
        simpa [about, List.filter_map, Function.comp_def] using same
      have equal : d = e := by
        refine (coherent.runAll _ d heldCalls).ext_enrolment? (coherent.runAll _ e heldOthers)
          (name.trans nameToo.symm) (createdAt.trans createdAtToo.symm) fun id => ?_
        rw [kept, keptToo, concerned]
      calc
        r.runAll (calls.map fun call => (now, call)) = ⟨some d⟩ := congrArg mk heldCalls
        _ = ⟨some e⟩ := by rw [equal]
        _ = r.runAll (others.map fun call => (now, call)) := (congrArg mk heldOthers).symm

/-- Made at whatever instants, they lead to registries that are alike. -/
theorem undated_runAll_of_reordered (coherent : r.Coherent)
    {calls others : List (Instant × Call)}
    (nodeLevel : ∀ entry ∈ calls ++ others, entry.2.isNodeLevel = true)
    (reordered : Reordered (calls.map Prod.snd) (others.map Prod.snd)) :
    (r.runAll calls).undated = (r.runAll others).undated := by
  have atEpoch : ∀ calls : List (Instant × Call), (r.runAll calls).undated =
      (r.runAll ((calls.map Prod.snd).map fun call => (Instant.epoch, call))).undated :=
    fun calls => undated_runAll rfl (by simp [Function.comp_def])
  obtain ⟨nodeLevelCalls, nodeLevelOthers⟩ := List.forall_mem_append.mp nodeLevel
  rw [atEpoch calls, atEpoch others, runAll_of_reordered coherent .epoch
    (List.forall_mem_map.mpr nodeLevelCalls) (List.forall_mem_map.mpr nodeLevelOthers) reordered]

/-- A cluster may be created with its nodes listed in any order. -/
theorem run_create_of_perm (now later : Instant) (name : String) {nodes permuted : List NodeSpec}
    (distinct : (nodes.map (·.nodeId)).Nodup) (same : nodes.Perm permuted) :
    let listed := r.run now (.create name nodes)
    let shuffled := r.run later (.create name permuted)
    listed.registry.undated = shuffled.registry.undated ∧ listed.answer = shuffled.answer ∧
      (r.isActive = false → ∃ summary, listed.answer = .ok summary) := by
  intro listed shuffled
  obtain ⟨_ | occupant⟩ := r
  · have distinctToo : (permuted.map (·.nodeId)).Nodup := (same.map _).nodup_iff.mp distinct
    obtain ⟨c, answer, registry, filled⟩ :=
      run_create_of_distinct now name (firstRepeated_eq_none_iff.mpr distinct)
    obtain ⟨d, answerToo, registryToo, filledToo⟩ :=
      run_create_of_distinct later name (firstRepeated_eq_none_iff.mpr distinctToo)
    have alike : c.undated = d.undated := by
      rw [filled, filledToo, Cluster.foldl_enroll_of_perm .epoch _ distinct same]
    refine ⟨?registry, ?answer, fun _ => ⟨c.summary, answer⟩⟩
    case registry =>
      calc
        listed.registry.undated = ⟨some c.undated⟩ := congrArg undated registry
        _ = ⟨some d.undated⟩ := by rw [alike]
        _ = shuffled.registry.undated := (congrArg undated registryToo).symm
    case answer =>
      have summaries : c.summary = d.summary := by
        rw [← c.summary_undated, alike, d.summary_undated]
      exact answer.trans ((congrArg Except.ok summaries).trans answerToo.symm)
  · exact ⟨rfl, rfl, fun free => nomatch free⟩

/-- After any calls, two commands about different nodes lead to registries that are alike
apart from instants, whichever is made first, and each is answered alike or fails in the
same way, apart from the size of the cluster.  So does any list of commands about nodes
in any order that keeps the order of the commands about each node.  A cluster is created
alike, with the same summary, in whatever order its distinct nodes are listed. -/
theorem commands_commute (before : List (Instant × Call)) :
    let r := empty.runAll before
    (∀ (first second : Call) (id other : UInt32), first.target? = some id →
      second.target? = some other → id ≠ other → ∀ now later start finish : Instant,
        let first₁ := r.run now first
        let second₁ := first₁.registry.run later second
        let second₂ := r.run start second
        let first₂ := second₂.registry.run finish first
        second₁.registry.undated = first₂.registry.undated ∧
          first₁.answer.map first.unsized = first₂.answer.map first.unsized ∧
          second₁.answer.map second.unsized = second₂.answer.map second.unsized) ∧
    (∀ calls others : List (Instant × Call),
      (∀ entry ∈ calls ++ others, ∃ id, entry.2.target? = some id) →
      Reordered (calls.map Prod.snd) (others.map Prod.snd) →
        (r.runAll calls).undated = (r.runAll others).undated) ∧
    ∀ (name : String) (nodes permuted : List NodeSpec), (nodes.map (·.nodeId)).Nodup →
      nodes.Perm permuted → ∀ now later : Instant,
        let listed := r.run now (.create name nodes)
        let shuffled := r.run later (.create name permuted)
        listed.registry.undated = shuffled.registry.undated ∧ listed.answer = shuffled.answer ∧
          (r.isActive = false → ∃ summary, listed.answer = .ok summary) := by
  intro r
  have coherent : r.Coherent := coherent_empty.runAll before
  refine ⟨?pairs, ?lists, ?creations⟩
  case pairs =>
    intro first second id other firstTarget secondTarget ne now later start finish
    have alike : (r.runAll [(now, first), (later, second)]).undated =
        (r.runAll [(start, second), (finish, first)]).undated :=
      undated_runAll_of_reordered coherent
        (by simp [Call.isNodeLevel_of_target? firstTarget,
          Call.isNodeLevel_of_target? secondTarget])
        (reordered_swap firstTarget secondTarget ne)
    exact ⟨alike, answer_run_of_other coherent firstTarget secondTarget ne now start finish,
      (answer_run_of_other coherent secondTarget firstTarget ne.symm start now later).symm⟩
  case lists =>
    intro calls others targeted reordered
    have nodeLevel : ∀ entry ∈ calls ++ others, entry.2.isNodeLevel = true := by
      intro entry entryMem
      obtain ⟨id, target⟩ := targeted entry entryMem
      exact Call.isNodeLevel_of_target? target
    exact undated_runAll_of_reordered coherent nodeLevel reordered
  case creations =>
    intro name nodes permuted distinct same now later
    exact run_create_of_perm now later name distinct same

end Registry

end ControlPlane
