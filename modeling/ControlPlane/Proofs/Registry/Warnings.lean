import ControlPlane.Proofs.Registry.Logged

/-!
# Refusals that are warned of

A command that succeeds logs no warning.  A command that is refused is warned of once, or it
is refused in silence: nothing is logged if no cluster is held, or if the node that is to be
removed is no member.
-/

namespace ControlPlane

open ControlPlane.Time (Instant)

/-- The warnings that refused commands log, given the cluster that is held, if there is
one. -/
inductive Warned : Option Cluster → Call → Event → Prop
  | occupied {c : Cluster} {name : String} {nodes : List NodeSpec} :
      Warned (some c) (.create name nodes) (.createRefusedHeld name c.name)
  | repeated {name : String} {nodes : List NodeSpec} {id : UInt32}
      (repeats : FirstRepeat (nodes.map (·.nodeId)) id) :
      Warned none (.create name nodes) (.createRefusedRepeated name id)
  | taken {c : Cluster} {spec : NodeSpec} (present : c.hasMember spec.nodeId = true) :
      Warned (some c) (.add spec) (.addRefused c.name spec.nodeId)
  | stranger {c : Cluster} {id : UInt32} {e : Endpoint} (absent : c.hasMember id = false) :
      Warned (some c) (.register id e) (.endpointRefused c.name id)

theorem Warned.level_eq {held : Option Cluster} {call : Call} {event : Event}
    (warned : Warned held call event) : event.level = .warn := by
  cases warned <;> rfl

/-- The refusals that nothing is logged about. -/
def Unheard (e : Error) (call : Call) : Prop :=
  e = .clusterNotFound ∨ ∃ id, call = .remove id

namespace Registry

section

variable {now : Instant} {r : Registry} {call : Call}

/-- Whoever is warned is warned once. -/
theorem events_of_warned {event : Event} (warned : Warned r.held call event) :
    (r.run now call).events = [event] := by
  obtain ⟨held⟩ := r
  change Warned held call event at warned
  cases warned with
  | occupied => rfl
  | repeated repeats =>
      simp [run, create, refuse, firstRepeated_eq_some_iff.mpr repeats]
  | taken present => simp [run, add, refuse, present]
  | stranger absent => simp [run, register, refuse, absent]

theorem events_remove_of_stranger {c : Cluster} {id : UInt32} (held : r.held = some c)
    (absent : c.hasMember id = false) : (r.run now (.remove id)).events = [] := by
  have notFound : c.members.get? id = none := c.hasMember_eq_false_iff.mp absent
  simp [run, remove, refuse, held, notFound]

/-- A command that is refused is warned of, or it is one of those that nothing is logged
about. -/
theorem warned_or_unheard (now : Instant) {e : Error} (command : call.isQuery = false)
    (reason : Refused r.held call e) :
    (¬Unheard e call ∧ ∃ event, Warned r.held call event) ∨
      (Unheard e call ∧ (r.run now call).events = []) := by
  cases held : r.held with
  | none =>
      rw [held] at reason
      cases reason with
      | repeated repeats => exact .inl ⟨by simp [Unheard], _, .repeated repeats⟩
      | vacant needs => exact .inr ⟨.inl rfl, by rw [run_of_vacant held needs]⟩
  | some c =>
      rw [held] at reason
      cases reason with
      | occupied => exact .inl ⟨by simp [Unheard], _, .occupied⟩
      | taken present => exact .inl ⟨by simp [Unheard], _, .taken present⟩
      | @stranger _ _ id subject absent =>
          cases call with
          | remove other =>
              obtain rfl := Option.some.inj subject
              exact .inr ⟨.inr ⟨_, rfl⟩, events_remove_of_stranger held absent⟩
          | register other e =>
              obtain rfl := Option.some.inj subject
              exact .inl ⟨by simp [Unheard], _, .stranger absent⟩
          | create | destroy | add | isActive | ensure | snapshot | node | nodes | endpoint
          | endpoints | metrics => contradiction
      | unregistered => contradiction

/-- A command that succeeds tells what happened and warns of nothing. -/
theorem level_of_succeeded {answer : call.Answer}
    (succeeded : (r.run now call).answer = .ok answer) :
    ∀ event ∈ (r.run now call).events, event.level = .info := by
  have logged := logged_run now r call
  have unfailed : (r.run now call).failure? = none := by
    rw [Outcome.failure?, succeeded]
  rw [unfailed] at logged
  generalize (r.run now call).events = events at logged
  generalize (r.run now call).registry = next at logged
  cases logged with
  | created =>
      intro event eventMem
      rcases List.mem_append.mp eventMem with founder | last
      · obtain ⟨spec, -, rfl⟩ := List.mem_map.mp founder
        rfl
      · rw [List.mem_singleton.mp last]
        rfl
  | destroyed | joined | left | registered =>
      intro event eventMem
      rw [List.mem_singleton.mp eventMem]
      rfl
  | answered =>
      intro event eventMem
      contradiction

end

/-- A command that is refused logs one event, a warning, unless it is one of those that
nothing is logged about.  A command that succeeds logs no warning. -/
theorem refusals_are_warned_of (now : Instant) (r : Registry) {call : Call}
    (command : call.isQuery = false) :
    (∀ e, (r.run now call).answer = .error e →
      ((∃ event, Warned r.held call event ∧ (r.run now call).events = [event] ∧
        event.level = .warn) ↔ ¬Unheard e call) ∧
      (Unheard e call → (r.run now call).events = [])) ∧
    ∀ answer, (r.run now call).answer = .ok answer →
      ∀ event ∈ (r.run now call).events, event.level = .info := by
  refine ⟨?refused, fun answer succeeded => level_of_succeeded succeeded⟩
  intro e failed
  rcases warned_or_unheard now command (answer_eq_error_iff.mp failed) with
    ⟨heard, event, warned⟩ | ⟨unheard, silent⟩
  · refine ⟨iff_of_true ⟨event, warned, events_of_warned warned, warned.level_eq⟩ heard, ?_⟩
    intro unheard
    exact absurd unheard heard
  · refine ⟨iff_of_false ?_ fun heard => heard unheard, fun _ => silent⟩
    rintro ⟨event, -, events, -⟩
    rw [silent] at events
    contradiction

/-- Registering an endpoint for a stranger is refused with a warning. -/
theorem refusals_are_warned_of_stranger :
    let r : Registry := ⟨some (.new "c" .epoch)⟩
    let call : Call := .register 7 (.tcp "a" 1)
    call.isQuery = false ∧ (r.run .epoch call).answer = .error (.nodeNotFound 7) ∧
      ∃ event, Warned r.held call event ∧ (r.run .epoch call).events = [event] ∧
        event.level = .warn := by
  intro r call
  have command : call.isQuery = false := rfl
  have failed : (r.run .epoch call).answer = .error (.nodeNotFound 7) := rfl
  have heard : ¬Unheard (.nodeNotFound 7) call := by simp [Unheard, call]
  obtain ⟨refused, -⟩ := refusals_are_warned_of .epoch r command
  exact ⟨command, failed, (refused _ failed).1.mpr heard⟩

/-- A stranger is removed in vain, and nothing is destroyed where there is nothing: both
commands are refused, and the log says nothing of it. -/
theorem refused_in_silence :
    let r := Registry.empty.runAll [(.epoch, .create "c" [])]
    (r.run .epoch (.remove 7)).answer = .error (.nodeNotFound 7) ∧
      (r.run .epoch (.remove 7)).events = [] ∧
      (Registry.empty.run .epoch .destroy).answer = .error .clusterNotFound ∧
      (Registry.empty.run .epoch .destroy).events = [] :=
  ⟨rfl, rfl, rfl, rfl⟩

end Registry

end ControlPlane
