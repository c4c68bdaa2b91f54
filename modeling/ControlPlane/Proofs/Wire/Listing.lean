import ControlPlane.Gateway.Reply
import ControlPlane.Proofs.Registry.Filling
import ControlPlane.Proofs.Wire.RoundTrip

/-!
# Listings are read as requests

A listed member is read as the description of a node that is to join with the
status it has; the instant at which it joined is no field of a description.  An
entry of the directory is read as the endpoint that it shows; its tier and its
latency are no fields of an endpoint.  A name together with the listed members is
therefore a request for a cluster.
-/

namespace ControlPlane.Wire

open ControlPlane.Gateway
open ControlPlane.Json

/-! ## Members -/

theorem memberValue_eq (m : Member) :
    memberValue m =
      .object (nodeSpecMembers m.announced ++ [("joined_at", .text m.joinedAt.text)]) := by
  obtain ⟨_, _, _, rdmaGid, _, _, _, _⟩ := m
  cases rdmaGid <;> rfl

theorem plain_memberValue (m : Member) : (memberValue m).Plain := by
  rw [memberValue_eq]
  apply Value.Plain.object
  rw [List.forall_mem_append]
  constructor
  · exact plain_nodeSpecMembers m.announced
  · simp [Value.Plain.text]

theorem nodeSpec_memberValue (m : Member) {depth : Nat} (deep : 2 < depth) :
    nodeSpec depth (memberValue m).draft = .ok m.announced := by
  have foreign : ∀ member ∈ [("joined_at", Value.text m.joinedAt.text)],
      Record.field? nodeSpecFields member.1 = none := by
    simp only [List.forall_mem_singleton]
    rfl
  rw [memberValue_eq]
  exact nodeSpec_nodeSpecMembers_append m.announced deep foreign

/-! ## Entries of the directory -/

theorem plain_entryValue (e : Endpoint) : (Reply.entryValue e).Plain := by
  apply Value.Plain.object
  rw [List.forall_mem_append]
  constructor
  · exact plain_endpointMembers e
  · simp [tierValue, Value.Plain.text, Value.Plain.natural]

theorem expectedLatencyUs_lt (t : Tier) : t.expectedLatencyUs < UInt64.size := by
  cases t <;> decide

theorem endpoint_entryValue (e : Endpoint) {depth : Nat} (deep : 1 < depth) :
    endpoint depth (Reply.entryValue e).draft = .ok e := by
  have latency := expectedLatencyUs_lt e.tier
  apply endpoint_endpointMembers_append e deep
  · cases e <;> simp [endpointTag, fieldNames, describedFields]
  · simp only [List.forall_mem_cons]
    exact ⟨rfl, Value.isReadable_natural latency _, by simp⟩

theorem ofText_entryValue (e : Endpoint) :
    Decoder.ofText endpoint (Reply.entryValue e).render = .ok e := by
  rw [Decoder.ofText_render (plain_entryValue e)]
  exact endpoint_entryValue e (by decide)

/-! ## Requests for a cluster -/

/-- The request for a cluster with a name and with nodes that were listed. -/
def clusterRequestMembers (name : String) (members : List Member) : List (String × Value) :=
  [("name", .text name), ("nodes", .array (members.map memberValue))]

theorem plain_clusterRequestMembers (name : String) (members : List Member) :
    ∀ m ∈ clusterRequestMembers name members, m.2.Plain := by
  have nodes : (Value.array (members.map memberValue)).Plain := by
    apply Value.Plain.array
    intro item itemMem
    obtain ⟨m, _, rfl⟩ := List.mem_map.mp itemMem
    exact plain_memberValue m
  simp [clusterRequestMembers, Value.Plain.text, nodes]

theorem clusterRequest_clusterRequestMembers (name : String) (members : List Member)
    {depth : Nat} (deep : 4 < depth) :
    clusterRequest depth (Value.object (clusterRequestMembers name members)).draft =
      .ok ⟨name, members.map Member.announced⟩ := by
  have listed : List.Forall₂ (fun item spec => nodeSpec (depth - 1 - 1) item = .ok spec)
      ((members.map memberValue).map Value.draft) (members.map Member.announced) := by
    rw [List.map_map, List.forall₂_map_left_iff, List.forall₂_map_right_iff, List.forall₂_same]
    exact fun m _ => nodeSpec_memberValue m (by omega)
  rw [Value.draft_object, clusterRequest_eq_ok_iff (by omega) Value.isValue_of_mem_drafts]
  exact ⟨⟨_, rfl, rfl⟩, .inr ⟨_, rfl, _, Value.draft_array _, listed⟩⟩

theorem ofText_clusterRequest (name : String) (members : List Member) :
    Decoder.ofText clusterRequest (Value.object (clusterRequestMembers name members)).render =
      .ok ⟨name, members.map Member.announced⟩ := by
  rw [Decoder.ofText_render (.object (plain_clusterRequestMembers name members))]
  exact clusterRequest_clusterRequestMembers name members (by decide)

end ControlPlane.Wire
