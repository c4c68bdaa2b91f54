import ControlPlane.Proofs.Registry.Step

/-!
# What calls log

`Registry.Logged` lists everything that a call can log.  A command that succeeds
logs what happened, in terms of the cluster that it found; a command that is refused
logs warnings or nothing; a query logs nothing.  What the log of a run tells follows
from what the log of one call tells, so the events of commands are read here and
nowhere else.
-/

namespace ControlPlane

open ControlPlane.Time (Instant)

namespace Registry

/-- What a call made at `now` logs: the error if the call fails, the events, and the
registry afterwards. -/
inductive Logged (now : Instant) (r : Registry) :
    Call → Option Error → List Event → Registry → Prop
  | created {name : String} {nodes : List NodeSpec} {c : Cluster} (free : r.held = none)
      (distinct : (nodes.map (·.nodeId)).Nodup)
      (filled : nodes.foldl (Cluster.enroll now) (.new name now) = c) :
      Logged now r (.create name nodes) none
        (nodes.map (fun spec => founderEvent name (spec.enroll now)) ++
          [.created name c.members.size c.totalMemoryMb])
        ⟨some c⟩
  | destroyed {c : Cluster} (held : r.held = some c) :
      Logged now r .destroy none [.destroyed c.name c.members.size c.endpoints.size] ⟨none⟩
  | joined {c : Cluster} {spec : NodeSpec} (held : r.held = some c)
      (absent : c.members.get? spec.nodeId = none) :
      Logged now r (.add spec) none
        [.nodeJoined c.name spec.nodeId spec.hostname (spec.enroll now).status
          (spec.endpoint.map Endpoint.transport)]
        ⟨some (c.enroll now spec)⟩
  | left {c : Cluster} {id : UInt32} {m : Member} (held : r.held = some c)
      (found : c.members.get? id = some m) :
      Logged now r (.remove id) none
        [.nodeLeft c.name id m.hostname (c.endpoints.contains id)] ⟨some (c.leave id)⟩
  | registered {c : Cluster} {id : UInt32} {e : Endpoint} (held : r.held = some c)
      (present : c.hasMember id = true) :
      Logged now r (.register id e) none [.endpointRegistered c.name id e]
        ⟨some (c.setEndpoint id e)⟩
  | answered {call : Call} {failure : Option Error} (query : call.isQuery = true) :
      Logged now r call failure [] r
  | refused {call : Call} {e : Error} {events : List Event} (command : call.isQuery = false)
      (reason : Refused r.held call e) (warnings : ∀ event ∈ events, event.level = .warn) :
      Logged now r call (some e) events r

section

variable (now : Instant) (r : Registry)

private theorem logged_create (name : String) (nodes : List NodeSpec) :
    Logged now r (.create name nodes) (r.create now name nodes).failure?
      (r.create now name nodes).events (r.create now name nodes).registry := by
  obtain ⟨_ | c⟩ := r
  · simp only [create]
    cases repeated : firstRepeated [] (nodes.map (·.nodeId)) with
    | some id =>
        apply Logged.refused rfl (.repeated (firstRepeated_eq_some_iff.mp repeated))
        simp [refuse, Event.level]
    | none => exact .created rfl (firstRepeated_eq_none_iff.mp repeated) rfl
  · apply Logged.refused rfl .occupied
    simp [create, refuse, Event.level]

private theorem logged_destroy :
    Logged now r .destroy r.destroy.failure? r.destroy.events r.destroy.registry := by
  obtain ⟨_ | c⟩ := r
  · apply Logged.refused rfl (.vacant rfl)
    simp [destroy, refuse]
  · exact .destroyed rfl

private theorem logged_add (spec : NodeSpec) :
    Logged now r (.add spec) (r.add now spec).failure? (r.add now spec).events
      (r.add now spec).registry := by
  obtain ⟨_ | c⟩ := r
  · apply Logged.refused rfl (.vacant rfl)
    simp [add, refuse]
  · simp only [add]
    cases present : c.hasMember spec.nodeId with
    | true =>
        apply Logged.refused rfl (.taken present)
        simp [refuse, Event.level]
    | false => exact .joined rfl (c.hasMember_eq_false_iff.mp present)

private theorem logged_remove (id : UInt32) :
    Logged now r (.remove id) (r.remove id).failure? (r.remove id).events
      (r.remove id).registry := by
  obtain ⟨_ | c⟩ := r
  · apply Logged.refused rfl (.vacant rfl)
    simp [remove, refuse]
  · simp only [remove]
    cases found : c.members.get? id with
    | none =>
        apply Logged.refused rfl (.stranger rfl (c.hasMember_eq_false_iff.mpr found))
        simp [refuse]
    | some m => exact .left rfl found

private theorem logged_register (id : UInt32) (e : Endpoint) :
    Logged now r (.register id e) (r.register id e).failure? (r.register id e).events
      (r.register id e).registry := by
  obtain ⟨_ | c⟩ := r
  · apply Logged.refused rfl (.vacant rfl)
    simp [register, refuse]
  · simp only [register]
    cases present : c.hasMember id with
    | false =>
        apply Logged.refused rfl (.stranger rfl present)
        simp [refuse, Event.level]
    | true => exact .registered rfl present

/-- Whatever a call logs is one of these. -/
theorem logged_run (call : Call) :
    Logged now r call (r.run now call).failure? (r.run now call).events
      (r.run now call).registry := by
  cases call with
  | create name nodes => exact logged_create now r name nodes
  | destroy => exact logged_destroy now r
  | add spec => exact logged_add now r spec
  | remove id => exact logged_remove now r id
  | register id e => exact logged_register now r id e
  | isActive | ensure | snapshot | node | nodes | endpoint | endpoints | metrics =>
      exact .answered rfl

end

end Registry

end ControlPlane
