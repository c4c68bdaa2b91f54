import ControlPlane.Proofs.Registry.Effect

/-!
# Transcripts

A transcript is the list of the calls of a run with their answers: all that
somebody learns who makes the calls and does not see the registry.  Three kinds of
answers say that something came or went, and two of them also report how large the
cluster is.
-/

namespace ControlPlane

open ControlPlane.Time (Instant)

/-- A call that was made, and its answer. -/
structure Answered where
  call : Call
  answer : Except Error call.Answer

/-- The calls of a run with their answers. -/
def Registry.transcript (r : Registry) : List (Instant × Call) → List Answered
  | [] => []
  | (now, call) :: rest =>
      let outcome := r.run now call
      ⟨call, outcome.answer⟩ :: outcome.registry.transcript rest

namespace Answered

/-- The answer that says that a node joined. -/
def joined? : Answered → Option NodeAdded
  | ⟨.add _, .ok answer⟩ => some answer
  | _ => none

/-- The answer that says that a node left. -/
def left? : Answered → Option NodeRemoved
  | ⟨.remove _, .ok answer⟩ => some answer
  | _ => none

/-- The answer that says that an endpoint was registered. -/
def registered? : Answered → Option EndpointRegistered
  | ⟨.register _ _, .ok answer⟩ => some answer
  | _ => none

/-- The size of the cluster that an answer reports. -/
def size? : Answered → Option Nat
  | ⟨.add _, .ok answer⟩ => some answer.clusterSize
  | ⟨.remove _, .ok answer⟩ => some answer.remaining
  | _ => none

/-! ## One more answer -/

section

variable {α : Type} (value? : Answered → Option α) (told : List Answered) (x : Answered)

theorem countP_filterMap_concat (p : α → Bool) :
    ((told ++ [x]).filterMap value?).countP p =
      (told.filterMap value?).countP p + (value? x).elim 0 fun y => (p y).toNat := by
  rw [List.filterMap_append, List.filterMap_cons, List.filterMap_nil]
  cases value? x with
  | none => simp
  | some y => cases holds : p y <;> simp [holds]

theorem length_filterMap_concat :
    ((told ++ [x]).filterMap value?).length =
      (told.filterMap value?).length + (value? x).elim 0 fun _ => 1 := by
  rw [← List.countP_true, countP_filterMap_concat, List.countP_true]
  rfl

end

/-! ## Answers that say nothing -/

/-- An answer that says nothing about what came and went. -/
structure Quiet (x : Answered) : Prop where
  joined : x.joined? = none
  left : x.left? = none
  registered : x.registered? = none
  size : x.size? = none

theorem quiet_of_failed (call : Call) (e : Error) : Quiet ⟨call, .error e⟩ := by
  cases call <;> exact ⟨rfl, rfl, rfl, rfl⟩

theorem quiet_of_query {call : Call} (query : call.isQuery = true)
    (answer : Except Error call.Answer) : Quiet ⟨call, answer⟩ := by
  cases call with
  | create | destroy | add | remove | register => contradiction
  | isActive | ensure | snapshot | node | nodes | endpoint | endpoints | metrics =>
      exact ⟨rfl, rfl, rfl, rfl⟩

end Answered

end ControlPlane
