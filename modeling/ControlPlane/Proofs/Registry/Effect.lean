import ControlPlane.Proofs.Registry.Step

/-!
# What calls that succeed do and answer

`Registry.Effect` lists everything that a call can do when it is answered: with
each command it gives the answer and the registry afterwards in terms of the
cluster that was held.  What the answers of a run add up to follows from what the
answer of one call says, so the answers of commands are read here and nowhere else.
-/

namespace ControlPlane

open ControlPlane.Time (Instant)

namespace Registry

/-! ## Effects -/

/-- What a call made at `now` does to a registry when it succeeds: its answer, and
the registry afterwards. -/
inductive Effect (now : Instant) (r : Registry) :
    (call : Call) → call.Answer → Registry → Prop
  | created {name : String} {nodes : List NodeSpec} {c : Cluster} (free : r.held = none)
      (distinct : (nodes.map (·.nodeId)).Nodup)
      (filled : nodes.foldl (Cluster.enroll now) (.new name now) = c) :
      Effect now r (.create name nodes) c.summary ⟨some c⟩
  | destroyed {c : Cluster} (held : r.held = some c) :
      Effect now r .destroy c.remains ⟨none⟩
  | joined {c : Cluster} {spec : NodeSpec} (held : r.held = some c)
      (absent : c.members.get? spec.nodeId = none) :
      Effect now r (.add spec)
        ⟨spec.nodeId, (c.enroll now spec).members.size, spec.endpoint.map Endpoint.transport⟩
        ⟨some (c.enroll now spec)⟩
  | left {c : Cluster} {id : UInt32} {m : Member} (held : r.held = some c)
      (found : c.members.get? id = some m) :
      Effect now r (.remove id)
        ⟨id, (c.leave id).members.size, c.endpoints.contains id⟩ ⟨some (c.leave id)⟩
  | registered {c : Cluster} {id : UInt32} {e : Endpoint} {m : Member} (held : r.held = some c)
      (found : c.members.get? id = some m) :
      Effect now r (.register id e)
        ⟨id, e.transport, (c.endpoints.get? id).map Endpoint.transport⟩
        ⟨some (c.setEndpoint id e)⟩
  | answered {call : Call} {answer : call.Answer} (query : call.isQuery = true) :
      Effect now r call answer r

section

variable {now : Instant} {r : Registry}

private theorem effect_create {name : String} {nodes : List NodeSpec} {answer : ClusterSummary}
    (succeeded : (r.create now name nodes).answer = .ok answer) :
    Effect now r (.create name nodes) answer (r.create now name nodes).registry := by
  obtain ⟨_ | c⟩ := r
  · simp only [create] at succeeded ⊢
    cases repeated : firstRepeated [] (nodes.map (·.nodeId)) with
    | some id =>
        rw [repeated] at succeeded
        contradiction
    | none =>
        rw [repeated] at succeeded
        obtain rfl := Except.ok.inj succeeded
        exact .created rfl (firstRepeated_eq_none_iff.mp repeated) rfl
  · contradiction

private theorem effect_destroy {answer : ClusterDestroyed}
    (succeeded : r.destroy.answer = .ok answer) :
    Effect now r .destroy answer r.destroy.registry := by
  obtain ⟨_ | c⟩ := r
  · contradiction
  · obtain rfl := Except.ok.inj succeeded
    exact .destroyed rfl

private theorem effect_add {spec : NodeSpec} {answer : NodeAdded}
    (succeeded : (r.add now spec).answer = .ok answer) :
    Effect now r (.add spec) answer (r.add now spec).registry := by
  obtain ⟨_ | c⟩ := r
  · contradiction
  · simp only [add] at succeeded ⊢
    cases present : c.hasMember spec.nodeId with
    | true =>
        rw [present] at succeeded
        contradiction
    | false =>
        rw [present] at succeeded
        obtain rfl := Except.ok.inj succeeded
        exact .joined rfl (c.hasMember_eq_false_iff.mp present)

private theorem effect_remove {id : UInt32} {answer : NodeRemoved}
    (succeeded : (r.remove id).answer = .ok answer) :
    Effect now r (.remove id) answer (r.remove id).registry := by
  obtain ⟨_ | c⟩ := r
  · contradiction
  · simp only [remove] at succeeded ⊢
    cases found : c.members.get? id with
    | none =>
        rw [found] at succeeded
        contradiction
    | some m =>
        rw [found] at succeeded
        obtain rfl := Except.ok.inj succeeded
        exact .left rfl found

private theorem effect_register {id : UInt32} {e : Endpoint} {answer : EndpointRegistered}
    (succeeded : (r.register id e).answer = .ok answer) :
    Effect now r (.register id e) answer (r.register id e).registry := by
  obtain ⟨_ | c⟩ := r
  · contradiction
  · simp only [register] at succeeded ⊢
    cases present : c.hasMember id with
    | false =>
        rw [present] at succeeded
        contradiction
    | true =>
        rw [present] at succeeded
        obtain rfl := Except.ok.inj succeeded
        obtain ⟨m, found⟩ := c.hasMember_eq_true_iff.mp present
        exact .registered rfl found

/-- A call that is answered has one of the effects. -/
theorem effect_run {call : Call} {answer : call.Answer}
    (succeeded : (r.run now call).answer = .ok answer) :
    Effect now r call answer (r.run now call).registry := by
  cases call with
  | create name nodes => exact effect_create succeeded
  | destroy => exact effect_destroy succeeded
  | add spec => exact effect_add succeeded
  | remove id => exact effect_remove succeeded
  | register id e => exact effect_register succeeded
  | isActive | ensure | snapshot | node | nodes | endpoint | endpoints | metrics =>
      exact .answered rfl

end

end Registry

end ControlPlane
