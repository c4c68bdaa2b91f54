import ControlPlane.Proofs.Wire.EndpointObject
import ControlPlane.Proofs.Wire.NodeObject

/-!
# What is written is read back

Descriptions of nodes and endpoints are read back from the texts they are written
as.  They are read back as well if members follow that nobody asks for, which is
how entries of listings are read.
-/

namespace ControlPlane.Wire

open ControlPlane.Json

theorem status_statusValue (s : Status) (depth : Nat) :
    status depth (statusValue s).draft = .ok s := by
  cases s <;> rfl

/-! ## Endpoints -/

/-- Each member of an endpoint may be looked into. -/
theorem readable_endpointMembers (e : Endpoint) (depth : Nat) :
    ∀ m ∈ endpointMembers e, m.2.draft.isReadable depth = true := by
  have small16 (n : UInt16) : n.toNat < UInt64.size := Nat.lt_trans n.toNat_lt (by decide)
  have small32 (n : UInt32) : n.toNat < UInt64.size := Nat.lt_trans n.toNat_lt (by decide)
  cases e <;>
    simp [endpointMembers, transportValue, Value.isReadable_natural, small16, small32,
      Value.draft, Draft.isReadable]

theorem describesEndpoint_endpointMembers (e : Endpoint) :
    DescribesEndpoint (Value.drafts (endpointMembers e)) e := by
  cases e with
  | tcp addr port =>
      refine ⟨rfl, ?_⟩
      simp only [describedFields, List.forall_mem_cons]
      exact ⟨⟨_, rfl, rfl⟩, ⟨_, rfl, Value.isLiteral_natural _⟩, by simp⟩
  | rdma qpn lid gid psn =>
      refine ⟨rfl, ?_⟩
      simp only [describedFields, List.forall_mem_cons]
      exact ⟨⟨_, rfl, Value.isLiteral_natural _⟩, ⟨_, rfl, Value.isLiteral_natural _⟩,
        ⟨_, rfl, rfl⟩, ⟨_, rfl, Value.isLiteral_natural _⟩, by simp⟩

/-- An endpoint is read from its members, in front of others that may be looked into
and are neither the tag nor a field of its transport. -/
theorem endpoint_endpointMembers_append (e : Endpoint) {extra : List (String × Value)}
    {depth : Nat} (deep : 1 < depth) (foreign : ∀ m ∈ extra, m.1 ∉ endpointTag :: fieldNames e)
    (readable : ∀ m ∈ extra, m.2.draft.isReadable (depth - 1) = true) :
    endpoint depth (Value.object (endpointMembers e ++ extra)).draft = .ok e := by
  have allReadable : ∀ m ∈ Value.drafts (endpointMembers e ++ extra),
      m.2.isReadable (depth - 1) = true := by
    rw [Value.drafts, List.forall_mem_map, List.forall_mem_append]
    exact ⟨readable_endpointMembers e (depth - 1), readable⟩
  rw [Value.draft_object, endpoint_eq_ok_iff deep allReadable, Value.drafts_append]
  apply (describesEndpoint_endpointMembers e).of_alike
  intro name known
  have unsaid : valuesOf (Value.drafts extra) name = [] := by
    apply valuesOf_eq_nil
    rw [Value.drafts, List.forall_mem_map]
    rintro m mMem rfl
    exact foreign m mMem known
  rw [valuesOf_append, unsaid, List.append_nil]

theorem endpoint_endpointValue (e : Endpoint) {depth : Nat} (deep : 1 < depth) :
    endpoint depth (endpointValue e).draft = .ok e := by
  have alone : endpoint depth (Value.object (endpointMembers e ++ [])).draft = .ok e :=
    endpoint_endpointMembers_append e deep (by simp) (by simp)
  rwa [List.append_nil] at alone

/-! ## Descriptions of nodes -/

/-- The members of a description. -/
def nodeSpecMembers (spec : NodeSpec) : List (String × Value) :=
  [("node_id", .natural spec.nodeId.toNat), ("hostname", .text spec.hostname),
   ("ip_address", .text spec.ipAddress)] ++
  optionalMember "rdma_gid" .text spec.rdmaGid ++
  [("cpu_count", .natural spec.cpuCount.toNat), ("memory_mb", .natural spec.memoryMb.toNat)] ++
  optionalMember "status" statusValue spec.status ++
  optionalMember "endpoint" endpointValue spec.endpoint

theorem nodeSpecValue_eq (spec : NodeSpec) :
    nodeSpecValue spec = .object (nodeSpecMembers spec) :=
  rfl

theorem forall_mem_optionalMember {name : String} {value : α → Value} {o : Option α}
    {holds : String × Value → Prop} (present : ∀ a, holds (name, value a)) :
    ∀ m ∈ optionalMember name value o, holds m := by
  cases o with
  | none => simp [optionalMember]
  | some a => simpa [optionalMember] using present a

/-- A member that is left out if there is no value says its field optionally. -/
theorem optionally_optionalMember {members : List (String × Draft)} {name : String}
    (value : α → Value) {holds : Draft → α → Prop} {o : Option α}
    (said : valuesOf members name = (o.map fun a => (value a).draft).toList)
    (present : ∀ a, holds (value a).draft a) : Optionally members name holds o := by
  cases o with
  | none => exact .inl said
  | some a => exact ⟨_, said, present a⟩

theorem describesNode_nodeSpecMembers (spec : NodeSpec) {depth : Nat} (deep : 1 < depth) :
    DescribesNode depth (Value.drafts (nodeSpecMembers spec)) spec := by
  obtain ⟨id, hostname, address, gid, cpus, memory, status, endpoint⟩ := spec
  refine ⟨?required, ?gid, ?status, ?endpoint⟩
  case required =>
    simp only [requiredFields, List.forall_mem_cons]
    cases gid <;> cases status <;> cases endpoint <;>
      exact ⟨⟨_, rfl, Value.isLiteral_natural _⟩, ⟨_, rfl, rfl⟩, ⟨_, rfl, rfl⟩,
        ⟨_, rfl, Value.isLiteral_natural _⟩, ⟨_, rfl, Value.isLiteral_natural _⟩, by simp⟩
  case gid =>
    apply optionally_optionalMember .text _ fun _ => rfl
    cases gid <;> cases status <;> cases endpoint <;> rfl
  case status =>
    apply optionally_optionalMember statusValue _ fun _ => .inl rfl
    cases gid <;> cases status <;> cases endpoint <;> rfl
  case endpoint =>
    apply optionally_optionalMember endpointValue _ fun e => endpoint_endpointValue e deep
    cases gid <;> cases status <;> cases endpoint <;> rfl

/-- A description is read from its members, in front of others that are no fields of
a description. -/
theorem nodeSpec_nodeSpecMembers_append (spec : NodeSpec) {extra : List (String × Value)}
    {depth : Nat} (deep : 2 < depth)
    (foreign : ∀ m ∈ extra, Record.field? nodeSpecFields m.1 = none) :
    nodeSpec depth (Value.object (nodeSpecMembers spec ++ extra)).draft = .ok spec := by
  have dropped : (Value.drafts extra).filter (Record.isField nodeSpecFields) = [] := by
    rw [List.filter_eq_nil_iff, Value.drafts, List.forall_mem_map]
    intro m mMem
    simp [Record.isField, foreign m mMem]
  rw [Value.draft_object, nodeSpec_eq_ok_iff deep Value.isValue_of_mem_drafts]
  apply (describesNode_nodeSpecMembers spec (by omega)).of_alike
  rw [Value.drafts_append, List.filter_append, dropped, List.append_nil]

theorem nodeSpec_nodeSpecValue (spec : NodeSpec) {depth : Nat} (deep : 2 < depth) :
    nodeSpec depth (nodeSpecValue spec).draft = .ok spec := by
  have alone : nodeSpec depth (Value.object (nodeSpecMembers spec ++ [])).draft = .ok spec :=
    nodeSpec_nodeSpecMembers_append spec deep (by simp)
  rw [nodeSpecValue_eq]
  rwa [List.append_nil] at alone

/-! ## Texts -/

theorem plain_endpointMembers (e : Endpoint) : ∀ m ∈ endpointMembers e, m.2.Plain := by
  cases e <;>
    simp only [endpointMembers, List.forall_mem_cons, transportValue, Value.Plain.text,
      Value.Plain.natural, List.not_mem_nil, false_imp_iff, implies_true, and_self]

theorem plain_endpointValue (e : Endpoint) : (endpointValue e).Plain :=
  .object (plain_endpointMembers e)

theorem plain_nodeSpecMembers (spec : NodeSpec) : ∀ m ∈ nodeSpecMembers spec, m.2.Plain := by
  simp only [nodeSpecMembers, List.forall_mem_append, List.forall_mem_cons]
  refine ⟨⟨⟨⟨⟨.natural _, .text _, .text _, by simp⟩, ?gid⟩, .natural _, .natural _, by simp⟩,
    ?status⟩, ?endpoint⟩
  case gid => exact forall_mem_optionalMember fun gid => .text gid
  case status => exact forall_mem_optionalMember fun s => .text s.name
  case endpoint => exact forall_mem_optionalMember plain_endpointValue

theorem plain_nodeSpecValue (spec : NodeSpec) : (nodeSpecValue spec).Plain :=
  .object (plain_nodeSpecMembers spec)

theorem ofText_nodeSpecValue (spec : NodeSpec) :
    Decoder.ofText nodeSpec (nodeSpecValue spec).render = .ok spec := by
  rw [Decoder.ofText_render (plain_nodeSpecValue spec)]
  exact nodeSpec_nodeSpecValue spec (by decide)

theorem ofText_endpointValue (e : Endpoint) :
    Decoder.ofText endpoint (endpointValue e).render = .ok e := by
  rw [Decoder.ofText_render (plain_endpointValue e)]
  exact endpoint_endpointValue e (by decide)

/-- The text that is written of what is read from a text. -/
def rewrite (decode : Decoder α) (value : α → Value) (s : String) : Except Refusal String :=
  (Decoder.ofText decode s).map fun a => (value a).render

/-- If everything written is read back, rewriting a text keeps what it is read to, and
rewriting it once more changes nothing. -/
theorem rewrite_of_ofText {decode : Decoder α} {value : α → Value}
    (readBack : ∀ a, Decoder.ofText decode (value a).render = .ok a) {s : String} {a : α}
    (read : Decoder.ofText decode s = .ok a) :
    ∃ written, rewrite decode value s = .ok written ∧
      Decoder.ofText decode written = .ok a ∧ rewrite decode value written = .ok written := by
  refine ⟨(value a).render, ?_, readBack a, ?_⟩
  · rw [rewrite, read]
    rfl
  · rw [rewrite, readBack a]
    rfl

/-- Descriptions of nodes and endpoints are read back from the texts they are written
as.  A text that is read as either may therefore be rewritten: the new text is read to
the same value and is rewritten to itself.  The text of an endpoint is an object with
the tag and the fields of its own transport, and nothing else. -/
theorem written_is_read_back :
    (∀ spec, Decoder.ofText nodeSpec (nodeSpecValue spec).render = .ok spec) ∧
    (∀ e, Decoder.ofText endpoint (endpointValue e).render = .ok e) ∧
    (∀ s spec, Decoder.ofText nodeSpec s = .ok spec →
      ∃ written, rewrite nodeSpec nodeSpecValue s = .ok written ∧
        Decoder.ofText nodeSpec written = .ok spec ∧
        rewrite nodeSpec nodeSpecValue written = .ok written) ∧
    (∀ s e, Decoder.ofText endpoint s = .ok e →
      ∃ written, rewrite endpoint endpointValue s = .ok written ∧
        Decoder.ofText endpoint written = .ok e ∧
        rewrite endpoint endpointValue written = .ok written) ∧
    (∀ addr port, Draft.ofText (endpointValue (.tcp addr port)).render.toList =
      (.object
        [(some "transport_type", .text (some "tcp")), (some "tcp_addr", .text (some addr)),
         (some "tcp_port", .number (.ofNat port.toNat))] .closed, [])) ∧
    (∀ qpn lid gid psn, Draft.ofText (endpointValue (.rdma qpn lid gid psn)).render.toList =
      (.object
        [(some "transport_type", .text (some "rdma")),
         (some "rdma_qpn", .number (.ofNat qpn.toNat)),
         (some "rdma_lid", .number (.ofNat lid.toNat)), (some "rdma_gid", .text (some gid)),
         (some "rdma_psn", .number (.ofNat psn.toNat))] .closed, [])) := by
  refine ⟨ofText_nodeSpecValue, ofText_endpointValue, ?_, ?_, ?_, ?_⟩
  · intro s spec read
    exact rewrite_of_ofText ofText_nodeSpecValue read
  · intro s e read
    exact rewrite_of_ofText ofText_endpointValue read
  · intro addr port
    exact (plain_endpointValue (.tcp addr port)).ofText_render
  · intro qpn lid gid psn
    exact (plain_endpointValue (.rdma qpn lid gid psn)).ofText_render

/-- An endpoint with its tag at the end and needless escapes. -/
def scatteredEndpoint : String :=
  "\x7b\"tcp_port\": 7000, \"tcp_addr\": \"\\u0041\\uD83D\\ude00\\/\", " ++
    "\"transport_type\": \"tcp\"\x7d"

/-- A description with its fields out of order and one member that is no field. -/
def scatteredNode : String :=
  "\x7b\"memory_mb\":18446744073709551615,\"unasked\":[1e3],\"status\":\x7b\"failed\":null\x7d," ++
    "\"hostname\":\"\\\"\\\\\\u0001\",\"ip_address\":\"\",\"cpu_count\":0,\"node_id\":7\x7d"

/-- Texts that are read as values and spelled in another way than these are written. -/
theorem written_is_read_back_from_scattered :
    (∃ written, rewrite nodeSpec nodeSpecValue scatteredNode = .ok written ∧
      Decoder.ofText nodeSpec written =
        .ok ⟨7, "\"\\\x01", "", none, 0, 18446744073709551615, some .failed, none⟩ ∧
      rewrite nodeSpec nodeSpecValue written = .ok written) ∧
    ∃ written, rewrite endpoint endpointValue scatteredEndpoint = .ok written ∧
      Decoder.ofText endpoint written = .ok (.tcp "A😀/" 7000) ∧
      rewrite endpoint endpointValue written = .ok written := by
  have nodeRead : Decoder.ofText nodeSpec scatteredNode =
      .ok ⟨7, "\"\\\x01", "", none, 0, 18446744073709551615, some .failed, none⟩ := by
    decide +kernel
  have endpointRead : Decoder.ofText endpoint scatteredEndpoint = .ok (.tcp "A😀/" 7000) := by
    decide +kernel
  exact ⟨written_is_read_back.2.2.1 _ _ nodeRead, written_is_read_back.2.2.2.1 _ _ endpointRead⟩

end ControlPlane.Wire
