import ControlPlane.Proofs.Registry.Audit

/-!
# Endpoints as they are announced

The log shows an endpoint as one line of text, in which the address comes first and is
written as it is, whatever it looks like.  The numbers behind it are read from the end: each
one goes back to a mark that ends in no digit, and what is left is the address.  So the
record of a registration tells which endpoint was registered.
-/

namespace ControlPlane

open ControlPlane.Time (Instant)

/-! ## Endpoints as text -/

namespace Endpoint

theorem display_tcp_inj {addr otherAddr : String} {port otherPort : UInt16} :
    (tcp addr port).display = (tcp otherAddr otherPort).display ↔
      addr = otherAddr ∧ port = otherPort := by
  rw [display, display, Text.append_decimalText_inj ":" (by decide), String.append_right_inj,
    UInt16.toNat_inj]

/-- The last number is taken off first. -/
theorem display_rdma_inj {qpn otherQpn psn otherPsn : UInt32} {lid otherLid : UInt16}
    {gid otherGid : String} :
    (rdma qpn lid gid psn).display = (rdma otherQpn otherLid otherGid otherPsn).display ↔
      ((gid = otherGid ∧ qpn = otherQpn) ∧ lid = otherLid) ∧ psn = otherPsn := by
  rw [display, display, Text.append_decimalText_inj " psn=" (by decide),
    Text.append_decimalText_inj " lid=" (by decide),
    Text.append_decimalText_inj " qpn=" (by decide), String.append_right_inj, UInt32.toNat_inj,
    UInt16.toNat_inj, UInt32.toNat_inj]

theorem display_tcp_ne_display_rdma {addr gid : String} {port lid : UInt16} {qpn psn : UInt32} :
    (tcp addr port).display ≠ (rdma qpn lid gid psn).display := by
  simp [display, ← String.toList_inj]

/-- Different endpoints are shown differently. -/
theorem display_inj {e f : Endpoint} : e.display = f.display ↔ e = f := by
  refine ⟨fun same => ?_, congrArg display⟩
  cases e with
  | tcp addr port =>
      cases f with
      | tcp =>
          obtain ⟨rfl, rfl⟩ := display_tcp_inj.mp same
          rfl
      | rdma => exact absurd same display_tcp_ne_display_rdma
  | rdma qpn lid gid psn =>
      cases f with
      | tcp => exact absurd same.symm display_tcp_ne_display_rdma
      | rdma =>
          obtain ⟨⟨⟨rfl, rfl⟩, rfl⟩, rfl⟩ := display_rdma_inj.mp same
          rfl

end Endpoint

/-! ## Records of registrations -/

/-- Only registrations are announced in these words. -/
theorem Event.eq_of_message_registered {event : Event}
    (message : event.message = "Endpoint registered") :
    ∃ cluster id e, event = .endpointRegistered cluster id e := by
  cases event with
  | endpointRegistered cluster id e => exact ⟨cluster, id, e, rfl⟩
  | createRefusedHeld | createRefusedRepeated | founderJoined | created | destroyed | addRefused
  | nodeJoined | nodeLeft | endpointRefused => simp [Event.message] at message

namespace Registry

/-- Whoever announces an endpoint has registered it. -/
theorem registered_of_mem_events {now : Instant} {r : Registry} {call : Call} {cluster : String}
    {id : UInt32} {e : Endpoint}
    (announced : Event.endpointRegistered cluster id e ∈ (r.run now call).events) :
    call = .register id e ∧ (r.run now call).registry.endpoint id = .ok e := by
  have logged := logged_run now r call
  generalize (r.run now call).events = events at logged announced
  generalize (r.run now call).registry = next at logged ⊢
  generalize (r.run now call).failure? = failure at logged
  cases logged with
  | @registered c other f held present =>
      obtain ⟨-, rfl, rfl⟩ := Event.endpointRegistered.inj (List.mem_singleton.mp announced)
      refine ⟨rfl, endpoint_eq_ok_iff.mpr ⟨_, rfl, present, ?_⟩⟩
      rw [Cluster.get?_endpoints_setEndpoint, if_pos rfl]
  | refused _ _ warnings => cases warnings _ announced
  | created =>
      rcases List.mem_append.mp announced with founder | last
      · obtain ⟨spec, -, isFounder⟩ := List.mem_map.mp founder
        cases isFounder
      · cases List.mem_singleton.mp last
  | destroyed | joined | left => cases List.mem_singleton.mp announced
  | answered => cases announced

/-- A registration is announced once. -/
theorem events_of_registered {now : Instant} {r : Registry} {id : UInt32} {e : Endpoint}
    {answer : EndpointRegistered} (succeeded : (r.run now (.register id e)).answer = .ok answer) :
    ∃ cluster, (r.run now (.register id e)).events = [.endpointRegistered cluster id e] := by
  have logged := logged_run now r (.register id e)
  have unfailed : (r.run now (.register id e)).failure? = none := by
    rw [Outcome.failure?, succeeded]
  rw [unfailed] at logged
  generalize (r.run now (.register id e)).events = events at logged
  generalize (r.run now (.register id e)).registry = next at logged
  cases logged with
  | @registered c => exact ⟨c.name, rfl⟩
  | answered query => contradiction

/-- Endpoints that are shown alike are the same, whatever their addresses look like.  So the
record in which an endpoint is announced, which is written once for each registration that
succeeds and for nothing else, shows which endpoint has been registered. -/
theorem displays_identify_endpoints :
    (∀ e f : Endpoint, e.display = f.display ↔ e = f) ∧
    (∀ now (r : Registry) id e answer, (r.run now (.register id e)).answer = .ok answer →
      ∃ l, (r.run now (.register id e)).events.map Event.record = [l] ∧
        l.message = "Endpoint registered" ∧ l.text? "endpoint" = some e.display) ∧
    ∀ now (r : Registry) call, ∀ l ∈ (r.run now call).events.map Event.record,
      l.message = "Endpoint registered" →
      ∃ id e, call = .register id e ∧ (r.run now call).registry.endpoint id = .ok e ∧
        ∀ f : Endpoint, l.text? "endpoint" = some f.display ↔ f = e := by
  have shown (cluster : String) (id : UInt32) (e : Endpoint) :
      (Event.endpointRegistered cluster id e).record.text? "endpoint" = some e.display := rfl
  refine ⟨fun e f => Endpoint.display_inj, ?announced, ?identified⟩
  case announced =>
    intro now r id e answer succeeded
    obtain ⟨cluster, events⟩ := events_of_registered succeeded
    exact ⟨_, by rw [events]; rfl, rfl, shown cluster id e⟩
  case identified =>
    intro now r call l logged message
    obtain ⟨event, eventMem, rfl⟩ := List.mem_map.mp logged
    obtain ⟨cluster, id, e, rfl⟩ := Event.eq_of_message_registered message
    obtain ⟨registers, registered⟩ := registered_of_mem_events eventMem
    refine ⟨id, e, registers, registered, fun f => ?_⟩
    rw [shown, Option.some.injEq, Endpoint.display_inj, eq_comm]

/-- The address of this endpoint looks like the numbers behind it. -/
theorem displays_identify_endpoints_of_imitation :
    let spec : NodeSpec :=
      { nodeId := 1, hostname := "h", ipAddress := "i", rdmaGid := none, cpuCount := 1,
        memoryMb := 1, status := none, endpoint := none }
    let r := empty.runAll [(.epoch, .create "c" [spec])]
    let e : Endpoint := .rdma 7 8 "g qpn=1 lid=2 psn=3" 9
    (r.run .epoch (.register 1 e)).answer = .ok ⟨1, .rdma, none⟩ ∧
      ∃ l ∈ (r.run .epoch (.register 1 e)).events.map Event.record,
        l.message = "Endpoint registered" ∧
        l.text? "endpoint" = some "rdma://g qpn=1 lid=2 psn=3 qpn=7 lid=8 psn=9" ∧
        ∀ f : Endpoint, l.text? "endpoint" = some f.display ↔ f = e := by
  intro spec r e
  have succeeded : (r.run .epoch (.register 1 e)).answer = .ok ⟨1, .rdma, none⟩ := rfl
  obtain ⟨-, announced, identified⟩ := displays_identify_endpoints
  obtain ⟨l, logged, message, shown⟩ := announced _ _ _ _ _ succeeded
  have lMem : l ∈ (r.run .epoch (.register 1 e)).events.map Event.record := by simp [logged]
  obtain ⟨id, f, registers, -, determined⟩ := identified _ _ _ l lMem message
  obtain ⟨-, rfl⟩ := Call.register.inj registers
  exact ⟨succeeded, l, lMem, message, shown, determined⟩

end Registry

end ControlPlane
