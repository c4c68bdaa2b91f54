import ControlPlane.Proofs.Registry.Refusal

/-!
# What a call does

`Registry.Step` lists everything that a call can do: five commands change the
registry when they succeed, a query that is answered leaves it alone, and so
does a call that is refused.  A call fails exactly if there is a reason to refuse
it.  What holds of a run follows from what holds of a step, so that the commands
are taken apart here and nowhere else.
-/

namespace ControlPlane

open ControlPlane.Time (Instant)

/-- The error that a call led to, if it failed. -/
def Outcome.failure? {α : Type} (o : Outcome α) : Option Error :=
  match o.answer with
  | .ok _ => none
  | .error e => some e

theorem Outcome.failure?_eq_some_iff {α : Type} {o : Outcome α} {e : Error} :
    o.failure? = some e ↔ o.answer = .error e := by
  unfold failure?
  cases o.answer <;> simp

namespace Registry

/-! ## Steps -/

/-- What a call made at `now` does to a registry: the error if the call fails,
and the registry afterwards. -/
inductive Step (now : Instant) (r : Registry) : Call → Option Error → Registry → Prop
  | created {name : String} {nodes : List NodeSpec} (free : r.held = none)
      (distinct : (nodes.map (·.nodeId)).Nodup) :
      Step now r (.create name nodes) none
        ⟨some (nodes.foldl (Cluster.enroll now) (.new name now))⟩
  | destroyed {c : Cluster} (held : r.held = some c) :
      Step now r .destroy none ⟨none⟩
  | joined {c : Cluster} {spec : NodeSpec} (held : r.held = some c)
      (absent : c.members.get? spec.nodeId = none) :
      Step now r (.add spec) none ⟨some (c.enroll now spec)⟩
  | left {c : Cluster} {id : UInt32} (held : r.held = some c)
      (present : c.hasMember id = true) :
      Step now r (.remove id) none ⟨some (c.leave id)⟩
  | registered {c : Cluster} {id : UInt32} {e : Endpoint} (held : r.held = some c)
      (present : c.hasMember id = true) :
      Step now r (.register id e) none ⟨some (c.setEndpoint id e)⟩
  | answered {call : Call} (query : call.isQuery = true) : Step now r call none r
  | refused {call : Call} {e : Error} (reason : Refused r.held call e) :
      Step now r call (some e) r

private theorem step_create (now : Instant) (name : String) (nodes : List NodeSpec)
    (r : Registry) :
    Step now r (.create name nodes) (r.create now name nodes).failure?
      (r.create now name nodes).registry := by
  obtain ⟨_ | c⟩ := r
  · simp only [create]
    cases repeated : firstRepeated [] (nodes.map (·.nodeId)) with
    | some id => exact .refused (.repeated (firstRepeated_eq_some_iff.mp repeated))
    | none => exact .created rfl (firstRepeated_eq_none_iff.mp repeated)
  · exact .refused .occupied

private theorem step_destroy (now : Instant) (r : Registry) :
    Step now r .destroy r.destroy.failure? r.destroy.registry := by
  obtain ⟨_ | c⟩ := r
  · exact .refused (.vacant rfl)
  · exact .destroyed rfl

private theorem step_add (now : Instant) (spec : NodeSpec) (r : Registry) :
    Step now r (.add spec) (r.add now spec).failure? (r.add now spec).registry := by
  obtain ⟨_ | c⟩ := r
  · exact .refused (.vacant rfl)
  · simp only [add]
    by_cases present : c.hasMember spec.nodeId = true
    · rw [if_pos present]
      exact .refused (.taken present)
    · rw [if_neg present]
      exact .joined rfl (c.hasMember_eq_false_iff.mp (Bool.eq_false_iff.mpr present))

private theorem step_remove (now : Instant) (id : UInt32) (r : Registry) :
    Step now r (.remove id) (r.remove id).failure? (r.remove id).registry := by
  obtain ⟨_ | c⟩ := r
  · exact .refused (.vacant rfl)
  · simp only [remove]
    cases found : c.members.get? id with
    | none => exact .refused (.stranger rfl (c.hasMember_eq_false_iff.mpr found))
    | some m => exact .left rfl (c.hasMember_eq_true_iff.mpr ⟨m, found⟩)

private theorem step_register (now : Instant) (id : UInt32) (e : Endpoint) (r : Registry) :
    Step now r (.register id e) (r.register id e).failure? (r.register id e).registry := by
  obtain ⟨_ | c⟩ := r
  · exact .refused (.vacant rfl)
  · simp only [register]
    cases present : c.hasMember id with
    | false => exact .refused (.stranger rfl present)
    | true => exact .registered rfl present

private theorem step_node (now : Instant) (id : UInt32) (r : Registry) :
    Step now r (.node id) (r.answered (r.node id)).failure? r := by
  obtain ⟨_ | c⟩ := r
  · exact .refused (.vacant rfl)
  · rw [node_of_held rfl]
    cases found : c.members.get? id with
    | none => exact .refused (.stranger rfl (c.hasMember_eq_false_iff.mpr found))
    | some m => exact .answered rfl

private theorem step_endpoint (now : Instant) (id : UInt32) (r : Registry) :
    Step now r (.endpoint id) (r.answered (r.endpoint id)).failure? r := by
  obtain ⟨_ | c⟩ := r
  · exact .refused (.vacant rfl)
  · cases found : c.members.get? id with
    | none =>
        rw [endpoint_of_stranger rfl found]
        exact .refused (.stranger rfl (c.hasMember_eq_false_iff.mpr found))
    | some m =>
        rw [endpoint_of_member rfl found]
        cases silent : c.endpoints.get? id with
        | none =>
            exact .refused (.unregistered (c.hasMember_eq_true_iff.mpr ⟨m, found⟩)
              (c.endpoints.contains_eq_false_iff.mpr silent))
        | some e => exact .answered rfl

/-- Carrying a call out is a step. -/
theorem step_run (now : Instant) (r : Registry) (call : Call) :
    Step now r call (r.run now call).failure? (r.run now call).registry := by
  cases call with
  | create name nodes => exact step_create now name nodes r
  | destroy => exact step_destroy now r
  | add spec => exact step_add now spec r
  | remove id => exact step_remove now id r
  | register id e => exact step_register now id e r
  | node id => exact step_node now id r
  | endpoint id => exact step_endpoint now id r
  | isActive => exact .answered rfl
  | ensure | snapshot | nodes | endpoints | metrics =>
      obtain ⟨_ | c⟩ := r
      · exact .refused (.vacant rfl)
      · exact .answered rfl

/-- A call that fails was refused. -/
theorem Step.reason {now : Instant} {r r' : Registry} {call : Call} {e : Error}
    (step : Step now r call (some e) r') : Refused r.held call e := by
  cases step with
  | refused reason => exact reason

/-- A call changes the registry only if it is a command that succeeds. -/
theorem Step.eq_of_failed_or_query {now : Instant} {r r' : Registry} {call : Call}
    {failure : Option Error} (step : Step now r call failure r')
    (idle : failure.isSome = true ∨ call.isQuery = true) : r' = r := by
  cases step with
  | created | destroyed | joined | left | registered =>
      rcases idle with failed | query <;> contradiction
  | answered | refused => rfl

/-! ## Failing calls and queries -/

section

variable {now : Instant} {r : Registry} {call : Call} {e : Error}

/-- A call that fails is a step that fails. -/
theorem step_of_failed (failed : (r.run now call).answer = .error e) :
    Step now r call (some e) (r.run now call).registry := by
  rw [← Outcome.failure?_eq_some_iff.mpr failed]
  exact step_run now r call

/-- A call fails with an error exactly if the error is that of a reason to refuse
it. -/
theorem answer_eq_error_iff : (r.run now call).answer = .error e ↔ Refused r.held call e := by
  constructor
  · exact fun failed => (step_of_failed failed).reason
  · exact Refused.answer_eq

/-- A call that fails changes nothing. -/
theorem registry_of_failed (failed : (r.run now call).answer = .error e) :
    (r.run now call).registry = r :=
  (step_of_failed failed).eq_of_failed_or_query (.inl rfl)

/-- A query changes nothing. -/
theorem registry_of_query (query : call.isQuery = true) : (r.run now call).registry = r :=
  (step_run now r call).eq_of_failed_or_query (.inr query)

end

/-- Whatever the registry holds, a call fails exactly if there is a reason to
refuse it, and with the error of that reason; a batch of nodes is a reason
exactly if it repeats an id.  Calls that fail and queries change nothing. -/
theorem run_fails_iff_refused (now : Instant) (r : Registry) (call : Call) :
    (∀ e, (r.run now call).answer = .error e ↔ Refused r.held call e) ∧
      (∀ name nodes, call = .create name nodes → r.held = none →
        ((∃ e, (r.run now call).answer = .error e) ↔ ¬(nodes.map (·.nodeId)).Nodup)) ∧
      ((∃ e, (r.run now call).answer = .error e) ∨ call.isQuery = true →
        (r.run now call).registry = r) := by
  refine ⟨fun e => answer_eq_error_iff, ?_, ?_⟩
  · rintro name nodes rfl free
    rw [← exists_firstRepeat_iff]
    constructor
    · rintro ⟨e, failed⟩
      have reason := answer_eq_error_iff.mp failed
      rw [free] at reason
      cases reason with
      | repeated repeats => exact ⟨_, repeats⟩
      | vacant needs => contradiction
    · rintro ⟨id, repeats⟩
      refine ⟨.duplicateNode id, answer_eq_error_iff.mpr ?_⟩
      rw [free]
      exact .repeated repeats
  · rintro (⟨e, failed⟩ | query)
    · exact registry_of_failed failed
    · exact registry_of_query query

/-! ## Runs -/

@[simp]
theorem runAll_nil (r : Registry) : r.runAll [] = r :=
  rfl

@[simp]
theorem runAll_cons (r : Registry) (now : Instant) (call : Call)
    (calls : List (Instant × Call)) :
    r.runAll ((now, call) :: calls) = (r.run now call).registry.runAll calls :=
  rfl

/-- What every step preserves holds after every run. -/
theorem runAll_induction {P : Registry → Prop}
    (step : ∀ {now r call failure r'}, Step now r call failure r' → P r → P r')
    {r : Registry} (initial : P r) (calls : List (Instant × Call)) : P (r.runAll calls) := by
  induction calls generalizing r with
  | nil => exact initial
  | cons first rest ih =>
      obtain ⟨now, call⟩ := first
      exact ih (step (step_run now r call) initial)

end Registry

end ControlPlane
