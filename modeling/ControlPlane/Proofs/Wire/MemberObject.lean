import ControlPlane.Proofs.Time.Stamp
import ControlPlane.Proofs.Wire.Listing

/-!
# Objects that are members

An object that says each field of a member once, and the identifier of its group at
most once, is read as the member.  So is what is written for the member.
-/

namespace ControlPlane.Wire

open ControlPlane.Json
open ControlPlane.Time (Instant)

/-- The object says every field of a member once, but may leave out the identifier of its
group or say that it is `null`. -/
structure DescribesMember (depth : Nat) (members : List (String × Draft)) (m : Member) :
    Prop where
  required : ∀ f ∈ requiredFields m.announced, Once members f.1 f.2
  rdmaGid : Optionally members "rdma_gid" (fun d gid => d = .text (some gid)) m.rdmaGid
  status : Once members "status" fun d => status depth d = .ok m.status
  joinedAt : Once members "joined_at" fun d => instant depth d = .ok m.joinedAt

section Decoding

variable {members : List (String × Draft)} {m : Member} {depth : Nat}

theorem DescribesMember.vettable (describes : DescribesMember depth members m) :
    Record.Vettable memberFields depth [] members := by
  obtain ⟨required, gid, status, joinedAt⟩ := describes
  simp only [requiredFields, List.forall_mem_cons] at required
  obtain ⟨id, hostname, address, cpus, memory, -⟩ := required
  have distinct : (memberFields.map Field.name).Nodup := by decide
  rw [Record.vettable_iff_of_distinct distinct]
  simp only [memberFields, List.forall_mem_cons, Record.check_of_eq_ok_iff,
    Decoder.text_eq_ok_iff, Decoder.uint32_eq_ok_iff, Decoder.uint64_eq_ok_iff]
  refine ⟨.inr (id.imp fun d value => ⟨_, value⟩), .inr (hostname.imp fun d value => ⟨_, value⟩),
    .inr (address.imp fun d value => ⟨_, value⟩), ?_, .inr (cpus.imp fun d value => ⟨_, value⟩),
    .inr (memory.imp fun d value => ⟨_, value⟩), .inr (status.imp fun d value => ⟨_, value⟩),
    .inr (joinedAt.imp fun d value => ⟨_, value⟩), by simp⟩
  exact Record.atMostOnce_of_optionally (fun _ _ => Decoder.text_eq_ok_iff) text_ne_null gid

/-- An object that describes a member is read as it. -/
theorem member_of_describes (deep : 1 < depth) (values : ∀ m ∈ members, m.2.isValue = true)
    (describes : DescribesMember (depth - 1) members m) :
    member depth (.object (members.map Record.named) .closed) = .ok m := by
  have vetted : Record.vet "NodeRecord" memberFields depth
      (.object (members.map Record.named) .closed) =
        .ok (members.filter (Record.isField memberFields)) :=
    (Record.vet_object_eq_ok_iff deep values).mpr ⟨describes.vettable, rfl⟩
  obtain ⟨required, gid, status, joinedAt⟩ := describes
  simp only [requiredFields, List.forall_mem_cons] at required
  obtain ⟨id, hostname, address, cpus, memory, -⟩ := required
  have gidRead : Record.optional (members.filter (Record.isField memberFields)) "rdma_gid"
      (.nullable .text) none (depth - 1) = .ok m.rdmaGid :=
    Record.optional_of_optionally rfl (fun _ _ => Decoder.text_eq_ok_iff) text_ne_null gid
  rw [member, vetted]
  change (do
    let nodeId ← Record.required _ "node_id" .uint32 (depth - 1)
    _) = _
  rw [Record.required_of_once rfl (id.imp fun d => Decoder.uint32_eq_ok_iff.mpr),
    Record.required_of_once rfl (hostname.imp fun d => Decoder.text_eq_ok_iff.mpr),
    Record.required_of_once rfl (address.imp fun d => Decoder.text_eq_ok_iff.mpr), gidRead,
    Record.required_of_once rfl (cpus.imp fun d => Decoder.uint32_eq_ok_iff.mpr),
    Record.required_of_once rfl (memory.imp fun d => Decoder.uint64_eq_ok_iff.mpr),
    Record.required_of_once rfl status, Record.required_of_once rfl joinedAt]
  rfl

end Decoding

/-! ## What is written for members -/

theorem instant_text (i : Instant) (depth : Nat) :
    instant depth (Value.text i.text).draft = .ok i := by
  simp only [Value.draft, instant, Decoder.textAs, Instant.ofText_text]

/-- The members of the object that is written for a member. -/
def memberMembers (m : Member) : List (String × Value) :=
  nodeSpecMembers m.announced ++ [("joined_at", .text m.joinedAt.text)]

theorem describesMember_memberMembers (m : Member) (depth : Nat) :
    DescribesMember depth (Value.drafts (memberMembers m)) m := by
  obtain ⟨id, hostname, address, gid, cpus, memory, status, joinedAt⟩ := m
  refine ⟨?required, ?gid, ?status, ?joinedAt⟩
  case required =>
    simp only [requiredFields, List.forall_mem_cons]
    cases gid <;>
      exact ⟨⟨_, rfl, Value.isLiteral_natural _⟩, ⟨_, rfl, rfl⟩, ⟨_, rfl, rfl⟩,
        ⟨_, rfl, Value.isLiteral_natural _⟩, ⟨_, rfl, Value.isLiteral_natural _⟩, by simp⟩
  case gid =>
    apply optionally_optionalMember .text _ fun _ => rfl
    cases gid <;> rfl
  case status => cases gid <;> exact ⟨_, rfl, status_statusValue status depth⟩
  case joinedAt => cases gid <;> exact ⟨_, rfl, instant_text joinedAt depth⟩

/-- A written member is read back. -/
theorem member_memberValue (m : Member) {depth : Nat} (deep : 1 < depth) :
    member depth (memberValue m).draft = .ok m := by
  rw [memberValue_eq, ← memberMembers, Value.draft_object]
  exact member_of_describes deep Value.isValue_of_mem_drafts
    (describesMember_memberMembers m (depth - 1))

end ControlPlane.Wire
