import ControlPlane.Proofs.Registry.Undated

/-!
# Joining together and joining one by one

A cluster that is created with nodes in it is the cluster that is created empty
and joined by the nodes one after another, in the order of the list.  A batch is
searched for a repeated id before any node joins, while nodes that join one by
one are checked against the members so far.  Both find the same node: the first
one whose id occurred before.
-/

namespace ControlPlane

open ControlPlane.Time (Instant)

namespace Registry

/-- The error of the first call of a run that fails, if one does. -/
def firstFailure? (r : Registry) : List (Instant × Call) → Option Error
  | [] => none
  | (now, call) :: rest =>
      (r.run now call).failure?.or ((r.run now call).registry.firstFailure? rest)

/-- The calls that add nodes one by one, each at its own instant. -/
def additions (joins : List (Instant × NodeSpec)) : List (Instant × Call) :=
  joins.map fun join => (join.1, .add join.2)

variable {r : Registry} {c : Cluster} {spec : NodeSpec} (now : Instant)

/-! ## One by one -/

theorem failure?_add_of_member (held : r.held = some c)
    (present : c.hasMember spec.nodeId = true) :
    (r.run now (.add spec)).failure? = some (.duplicateNode spec.nodeId) := by
  have reason : Refused r.held (.add spec) (.duplicateNode spec.nodeId) := by
    rw [held]
    exact .taken present
  exact Outcome.failure?_eq_some_iff.mpr reason.answer_eq

theorem run_add_of_stranger (held : r.held = some c)
    (absent : c.hasMember spec.nodeId = false) :
    (r.run now (.add spec)).failure? = none ∧
      (r.run now (.add spec)).registry = ⟨some (c.enroll now spec)⟩ := by
  simp [run, add, held, absent, Outcome.failure?]

/-- Nodes that join one by one fail at the first id that is taken or occurred
before.  `seen` holds the ids of the members so far. -/
theorem firstFailure?_additions {seen : List UInt32} (held : r.held = some c)
    (known : ∀ id, c.hasMember id = true ↔ id ∈ seen) (joins : List (Instant × NodeSpec)) :
    r.firstFailure? (additions joins) =
      (firstRepeated seen (joins.map (·.2.nodeId))).map .duplicateNode := by
  induction joins generalizing r c seen with
  | nil => rfl
  | cons first rest ih =>
      obtain ⟨now, spec⟩ := first
      simp only [additions, List.map_cons, firstFailure?, firstRepeated]
      by_cases taken : spec.nodeId ∈ seen
      · rw [if_pos taken, failure?_add_of_member now held ((known _).mpr taken)]
        rfl
      · have absent : c.hasMember spec.nodeId = false := by
          rw [Bool.eq_false_iff, ne_eq, known]
          exact taken
        obtain ⟨succeeded, joined⟩ := run_add_of_stranger now held absent
        rw [if_neg taken, succeeded, joined, Option.none_or]
        apply ih rfl
        intro id
        rw [Cluster.hasMember_enroll_iff, known, List.mem_cons]

/-- Nodes that join one by one without a failure are members in the end. -/
theorem undated_runAll_additions (held : r.held = some c) {joins : List (Instant × NodeSpec)}
    (succeeded : r.firstFailure? (additions joins) = none) :
    (r.runAll (additions joins)).undated =
      ⟨some ((joins.map Prod.snd).foldl (Cluster.enroll .epoch) c.undated)⟩ := by
  induction joins generalizing r c with
  | nil =>
      change r.undated = _
      rw [undated, held]
      rfl
  | cons first rest ih =>
      obtain ⟨now, spec⟩ := first
      obtain ⟨added, later⟩ := Option.or_eq_none_iff.mp succeeded
      cases present : c.hasMember spec.nodeId with
      | true =>
          rw [failure?_add_of_member now held present] at added
          contradiction
      | false =>
          have joined := (run_add_of_stranger now held present).2
          rw [joined] at later
          change ((r.run now (.add spec)).registry.runAll (additions rest)).undated = _
          rw [joined, ih rfl later, Cluster.undated_enroll]
          rfl

/-! ## Together -/

/-- A batch that repeats an id is refused. -/
theorem run_create_of_repeated (name : String) {nodes : List NodeSpec} {id : UInt32}
    (repeated : firstRepeated [] (nodes.map (·.nodeId)) = some id) :
    (empty.run now (.create name nodes)).answer = .error (.duplicateNode id) ∧
      (empty.run now (.create name nodes)).registry = empty := by
  simp [run, create, empty, refuse, repeated]

/-- The nodes of any other batch join the new cluster in their order. -/
theorem run_create_of_distinct (name : String) {nodes : List NodeSpec}
    (distinct : firstRepeated [] (nodes.map (·.nodeId)) = none) :
    ∃ c, (empty.run now (.create name nodes)).answer = .ok c.summary ∧
      (empty.run now (.create name nodes)).registry = ⟨some c⟩ ∧
      c.undated = nodes.foldl (Cluster.enroll .epoch) (.new name .epoch) := by
  refine ⟨nodes.foldl (Cluster.enroll now) (.new name now), ?_, ?_, ?_⟩
  · simp [run, create, empty, distinct]
  · simp [run, create, empty, distinct]
  · exact (Cluster.new name now).undated_foldl_enroll now nodes

/-- A cluster that is created empty can be joined by nodes up to the first one
whose id is repeated. -/
theorem firstFailure?_create_additions (name : String) (joins : List (Instant × NodeSpec)) :
    (empty.run now (.create name [])).registry.firstFailure? (additions joins) =
      (firstRepeated [] ((joins.map Prod.snd).map (·.nodeId))).map .duplicateNode := by
  rw [List.map_map]
  apply firstFailure?_additions (c := .new name now) rfl
  intro id
  simp [Cluster.hasMember, IdMap.contains]

/-- Nodes that can join one by one lead to a cluster that is alike to the one of
the batch. -/
theorem undated_runAll_create_additions {name : String} {joins : List (Instant × NodeSpec)}
    (succeeded : (empty.run now (.create name [])).registry.firstFailure? (additions joins) =
      none) :
    ((empty.run now (.create name [])).registry.runAll (additions joins)).undated =
      ⟨some ((joins.map Prod.snd).foldl (Cluster.enroll .epoch) (.new name .epoch))⟩ :=
  undated_runAll_additions (c := .new name now) rfl succeeded

/-- A cluster that is created with nodes in it is created exactly if it can be
created empty and the nodes can then join one by one, in their order.  The two
registries are then alike apart from their instants, and the summary of the
creation has the figures of the cluster that was joined one by one.  Otherwise
the creation fails with the error of the first node that cannot join, and there
is no cluster. -/
theorem create_agrees_with_joining (now start : Instant) (name : String)
    (joins : List (Instant × NodeSpec)) :
    let batch := empty.run now (.create name (joins.map Prod.snd))
    let founded := empty.run start (.create name [])
    let joined := founded.registry.runAll (additions joins)
    ((∃ summary, batch.answer = .ok summary) ↔
      (∃ summary, founded.answer = .ok summary) ∧
        founded.registry.firstFailure? (additions joins) = none) ∧
    (∀ summary, batch.answer = .ok summary →
      batch.registry.undated = joined.undated ∧
        ∃ snapshot, joined.snapshot = .ok snapshot ∧ summary.name = snapshot.name ∧
          summary.nodes = snapshot.nodes ∧
          summary.totalMemoryMb = snapshot.totalMemoryMb ∧
          summary.totalVcpus = snapshot.totalVcpus) ∧
    ∀ e, batch.answer = .error e →
      founded.registry.firstFailure? (additions joins) = some e ∧ batch.registry.held = none := by
  intro batch founded joined
  have foundedAnswer : founded.answer = .ok (Cluster.new name start).summary := rfl
  have failure := firstFailure?_create_additions start name joins
  cases repeated : firstRepeated [] ((joins.map Prod.snd).map (·.nodeId)) with
  | some id =>
      obtain ⟨refused, unchanged⟩ := run_create_of_repeated now name repeated
      rw [repeated] at failure
      have batchRefused : batch.answer = .error (.duplicateNode id) := refused
      have failed : founded.registry.firstFailure? (additions joins) =
        some (.duplicateNode id) := failure
      refine ⟨by simp [batchRefused, failed], ?_, ?_⟩
      · intro summary created
        rw [batchRefused] at created
        contradiction
      · intro e error
        obtain rfl := Except.error.inj (batchRefused.symm.trans error)
        exact ⟨failed, congrArg held unchanged⟩
  | none =>
      obtain ⟨c, created, filled, undatedEq⟩ := run_create_of_distinct now name repeated
      rw [repeated] at failure
      have batchCreated : batch.answer = .ok c.summary := created
      have succeeded : founded.registry.firstFailure? (additions joins) = none := failure
      have alike : joined.undated = ⟨some c.undated⟩ := by
        rw [undatedEq]
        exact undated_runAll_create_additions start succeeded
      refine ⟨by simp [batchCreated, foundedAnswer, succeeded], ?_, ?_⟩
      · intro summary answered
        obtain rfl := Except.ok.inj (batchCreated.symm.trans answered)
        obtain ⟨d, heldJoined, alikeClusters⟩ := exists_held_of_undated_eq alike
        have summaryEq : c.summary = d.summary := by
          rw [← Cluster.summary_undated c, ← Cluster.summary_undated d, alikeClusters]
        refine ⟨?_, d.snapshot, map_require_of_held heldJoined _, ?_⟩
        · rw [alike]
          exact congrArg undated filled
        · rw [summaryEq]
          exact ⟨rfl, rfl, rfl, rfl⟩
      · intro e error
        rw [batchCreated] at error
        contradiction

end Registry

end ControlPlane
