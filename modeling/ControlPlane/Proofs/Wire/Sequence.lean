import ControlPlane.Proofs.Json.Sequence
import ControlPlane.Proofs.Wire.MemberObject

/-!
# Positional and keyed forms

Endpoints, descriptions of nodes, members and requests for clusters may be written as
arrays of their fields in the order of declaration.  What is written in either form is
read to the same value.  A description may leave out its status and its endpoint at the
end of the array, a request its nodes; nothing else may be left out, and no array holds
more than the fields.
-/

namespace ControlPlane.Wire

open ControlPlane.Json

/-! ## Forms -/

/-- The two forms of a record. -/
inductive Form
  | keyed
  | positional
deriving Repr, DecidableEq

/-- `null`, or a value if there is one. -/
def nullableValue (value : α → Value) : Option α → Value
  | none => .null
  | some a => value a

/-- The members of an endpoint after the tag. -/
def ownMembers : Endpoint → List (String × Value)
  | .tcp addr port => [("tcp_addr", .text addr), ("tcp_port", .natural port.toNat)]
  | .rdma qpn lid gid psn =>
      [("rdma_qpn", .natural qpn.toNat), ("rdma_lid", .natural lid.toNat),
       ("rdma_gid", .text gid), ("rdma_psn", .natural psn.toNat)]

theorem endpointMembers_eq_cons (e : Endpoint) :
    endpointMembers e = (endpointTag, transportValue e.transport) :: ownMembers e := by
  cases e <;> rfl

/-- An endpoint in either form.  Its array begins with the tag. -/
def endpointForm : Form → Endpoint → Value
  | .keyed, e => endpointValue e
  | .positional, e => .array (transportValue e.transport :: (ownMembers e).map Prod.snd)

/-- The fields of a description in their order, with the endpoint in either form. -/
def nodeSpecItems (form : Form) (spec : NodeSpec) : List Value :=
  [.natural spec.nodeId.toNat, .text spec.hostname, .text spec.ipAddress,
   nullableValue .text spec.rdmaGid, .natural spec.cpuCount.toNat, .natural spec.memoryMb.toNat,
   nullableValue statusValue spec.status, nullableValue (endpointForm form) spec.endpoint]

/-- The fields of a member in their order. -/
def memberItems (m : Member) : List Value :=
  [.natural m.nodeId.toNat, .text m.hostname, .text m.ipAddress, nullableValue .text m.rdmaGid,
   .natural m.cpuCount.toNat, .natural m.memoryMb.toNat, statusValue m.status,
   .text m.joinedAt.text]

/-- How many of its fields suffice for a description: of the eight only the last two may be
left out, and only if they are `null`. -/
structure Suffices (form : Form) (spec : NodeSpec) (count : Nat) : Prop where
  atLeast : 6 ≤ count
  atMost : count ≤ 8
  dropped : ∀ v ∈ (nodeSpecItems form spec).drop count, v = .null

/-- The values that are written for a description. -/
inductive WritesNode : Value → NodeSpec → Prop
  | keyed (spec : NodeSpec) : WritesNode (nodeSpecValue spec) spec
  | positional {form : Form} {spec : NodeSpec} {count : Nat} (enough : Suffices form spec count) :
      WritesNode (.array ((nodeSpecItems form spec).take count)) spec

/-! ## Plain values -/

theorem plain_nullableValue {value : α → Value} (plain : ∀ a, (value a).Plain) (o : Option α) :
    (nullableValue value o).Plain := by
  cases o with
  | none => exact .null
  | some a => exact plain a

theorem plain_endpointForm (form : Form) (e : Endpoint) : (endpointForm form e).Plain := by
  cases form with
  | keyed => exact plain_endpointValue e
  | positional =>
      apply Value.Plain.array
      rw [List.forall_mem_cons]
      refine ⟨.text _, ?_⟩
      intro item itemMem
      obtain ⟨m, mMem, rfl⟩ := List.mem_map.mp itemMem
      apply plain_endpointMembers e m
      rw [endpointMembers_eq_cons]
      exact List.mem_cons_of_mem _ mMem

theorem plain_nodeSpecItems (form : Form) (spec : NodeSpec) :
    ∀ v ∈ nodeSpecItems form spec, v.Plain := by
  simp only [nodeSpecItems, List.forall_mem_cons]
  exact ⟨.natural _, .text _, .text _, plain_nullableValue .text _, .natural _, .natural _,
    plain_nullableValue (fun s : Status => .text s.name) _,
    plain_nullableValue (plain_endpointForm form) _, by simp⟩

theorem WritesNode.plain {v : Value} {spec : NodeSpec} (writes : WritesNode v spec) :
    v.Plain := by
  cases writes with
  | keyed => exact plain_nodeSpecValue spec
  | positional =>
      apply Value.Plain.array
      intro item itemMem
      exact plain_nodeSpecItems _ spec item (List.mem_of_mem_take itemMem)

theorem plain_memberItems (m : Member) : ∀ v ∈ memberItems m, v.Plain := by
  simp only [memberItems, List.forall_mem_cons]
  exact ⟨.natural _, .text _, .text _, plain_nullableValue .text _, .natural _, .natural _,
    .text _, .text _, by simp⟩

/-! ## Endpoints -/

section Endpoints

variable {depth : Nat}

/-- An endpoint is read in either form. -/
theorem endpoint_endpointForm (form : Form) (e : Endpoint) (deep : 1 < depth) :
    endpoint depth (endpointForm form e).draft = .ok e := by
  cases form with
  | keyed => exact endpoint_endpointValue e deep
  | positional =>
      have names := lookup_endpointAlternatives e
      have readable : ∀ d ∈ (ownMembers e).map (fun m => m.2.draft),
          d.isReadable (depth - 1) = true := by
        rw [List.forall_mem_map]
        intro m mMem
        apply readable_endpointMembers e (depth - 1) m
        rw [endpointMembers_eq_cons]
        exact List.mem_cons_of_mem _ mMem
      have count : ((ownMembers e).map fun m => m.2.draft).length =
          (endpointAlternative e).fields.length := by
        cases e <;> rfl
      have named : (endpointTag, .text (some e.transport.name)) ::
          inOrder (endpointAlternative e).fields ((ownMembers e).map fun m => m.2.draft) =
            Value.drafts (endpointMembers e) := by
        cases e <;> rfl
      -- The array is read as the object with the tag first, which is how endpoints are written.
      rw [endpointForm, Value.draft_array, List.map_cons, List.map_map]
      change endpoint depth (.array (.text (some e.transport.name) ::
        (ownMembers e).map fun m => m.2.draft) true) = _
      rw [endpoint, Tagged.decode_array deep names (nodup_of_lookup names)
        (field?_endpointTag names) readable count, named, ← Value.draft_object]
      exact endpoint_endpointValue e deep

end Endpoints

/-! ## Descriptions of nodes -/

section Nodes

variable {depth : Nat}

/-- An array is read as the description that says the same fields by name. -/
theorem nodeSpec_array {items : List Draft} (enough : 6 ≤ items.length)
    (fits : items.length ≤ nodeSpecFields.length) :
    nodeSpec depth (.array items true) =
      nodeSpec depth (.object ((inOrder nodeSpecFields items).map Record.named) .closed) := by
  have optional : ∀ field ∈ nodeSpecFields.drop 6, field.mayEnd = true := by
    simp [nodeSpecFields, Field.orEnd]
  rw [nodeSpec, Record.vet_array (by decide) (Record.mayEndAfter_of_drop optional enough fits),
    ← nodeSpec]

/-- A field that is `null` or has a value is said optionally. -/
theorem optionally_nullableValue {members : List (String × Draft)} {name : String}
    {value : α → Value} {holds : Draft → α → Prop} {o : Option α}
    (said : valuesOf members name = [(nullableValue value o).draft])
    (present : ∀ a, holds (value a).draft a) : Optionally members name holds o := by
  cases o with
  | none => exact .inr said
  | some a => exact ⟨_, said, present a⟩

theorem eq_none_of_nullableValue {value : α → Value} (present : ∀ a, value a ≠ .null)
    {o : Option α} (isNull : nullableValue value o = .null) : o = none := by
  cases o with
  | none => rfl
  | some a => exact absurd isNull (present a)

section Suffices

variable {form : Form} {spec : NodeSpec} {count : Nat}

/-- An item that is left out is `null`. -/
theorem Suffices.eq_null (enough : Suffices form spec count) {index : Nat} {v : Value}
    (there : (nodeSpecItems form spec)[index]? = some v) (later : count ≤ index) : v = .null := by
  apply enough.dropped
  rw [List.mem_iff_getElem?]
  exact ⟨index - count, by rw [List.getElem?_drop, Nat.add_sub_cancel' later, there]⟩

theorem Suffices.status_eq_none (enough : Suffices form spec count) (short : count ≤ 6) :
    spec.status = none :=
  eq_none_of_nullableValue nofun (enough.eq_null (rfl : (nodeSpecItems form spec)[6]? = _) short)

theorem Suffices.endpoint_eq_none (enough : Suffices form spec count) (short : count ≤ 7) :
    spec.endpoint = none := by
  apply eq_none_of_nullableValue _ (enough.eq_null (rfl : (nodeSpecItems form spec)[7]? = _) short)
  intro e
  cases form <;> exact nofun

/-- The members of an array that holds a description describe the node. -/
theorem Suffices.describesNode (enough : Suffices form spec count) (deep : 1 < depth) :
    DescribesNode depth
      (inOrder nodeSpecFields (((nodeSpecItems form spec).take count).map Value.draft)) spec := by
  have noStatus := enough.status_eq_none
  have noEndpoint := enough.endpoint_eq_none
  have counts : count = 6 ∨ count = 7 ∨ count = 8 := by
    have atLeast := enough.atLeast
    have atMost := enough.atMost
    omega
  -- The three lengths differ in whether the last two items are there, so only the status and
  -- the endpoint are told apart by them.
  refine ⟨?required, ?gid, ?status, ?endpoint⟩
  case required =>
    simp only [requiredFields, List.forall_mem_cons]
    rcases counts with rfl | rfl | rfl <;>
      exact ⟨⟨_, rfl, Value.isLiteral_natural _⟩, ⟨_, rfl, rfl⟩, ⟨_, rfl, rfl⟩,
        ⟨_, rfl, Value.isLiteral_natural _⟩, ⟨_, rfl, Value.isLiteral_natural _⟩, by simp⟩
  case gid =>
    rcases counts with rfl | rfl | rfl <;>
      exact optionally_nullableValue rfl fun _ => rfl
  case status =>
    rcases counts with rfl | rfl | rfl
    · rw [noStatus (Nat.le_refl 6)]
      exact .inl rfl
    · exact optionally_nullableValue rfl fun _ => .inl rfl
    · exact optionally_nullableValue rfl fun _ => .inl rfl
  case endpoint =>
    rcases counts with rfl | rfl | rfl
    · rw [noEndpoint (by decide)]
      exact .inl rfl
    · rw [noEndpoint (Nat.le_refl 7)]
      exact .inl rfl
    · exact optionally_nullableValue rfl fun e => endpoint_endpointForm form e deep

end Suffices

/-- A description is read in every form. -/
theorem WritesNode.nodeSpec_eq {v : Value} {spec : NodeSpec} (writes : WritesNode v spec)
    (deep : 2 < depth) : nodeSpec depth v.draft = .ok spec := by
  cases writes with
  | keyed => exact nodeSpec_nodeSpecValue spec deep
  | @positional form _ count enough =>
      have length : (((nodeSpecItems form spec).take count).map Value.draft).length = count := by
        rw [List.length_map, List.length_take]
        exact Nat.min_eq_left enough.atMost
      rw [Value.draft_array, nodeSpec_array (by rw [length]; exact enough.atLeast)
        (by rw [length]; exact enough.atMost), nodeSpec_eq_ok_iff deep isValue_of_mem_inOrder]
      exact enough.describesNode (by omega)

end Nodes

/-! ## Members -/

section Members

variable {depth : Nat}

theorem nullable_gid (o : Option String) :
    Decoder.nullable .text depth (nullableValue .text o).draft = .ok o := by
  cases o <;> rfl

theorem describesMember_memberItems (m : Member) :
    DescribesMember depth (inOrder memberFields ((memberItems m).map Value.draft)) m := by
  refine ⟨?required, ?gid, ?status, ?joinedAt⟩
  case required =>
    simp only [requiredFields, List.forall_mem_cons]
    exact ⟨⟨_, rfl, Value.isLiteral_natural _⟩, ⟨_, rfl, rfl⟩, ⟨_, rfl, rfl⟩,
      ⟨_, rfl, Value.isLiteral_natural _⟩, ⟨_, rfl, Value.isLiteral_natural _⟩, by simp⟩
  case gid => exact optionally_nullableValue rfl fun _ => rfl
  case status => exact ⟨_, rfl, status_statusValue m.status depth⟩
  case joinedAt => exact ⟨_, rfl, instant_text m.joinedAt depth⟩

/-- A member is read from all of its fields in their order. -/
theorem member_array {items : List Draft} (full : items.length = memberFields.length) :
    member depth (.array items true) =
      member depth (.object ((inOrder memberFields items).map Record.named) .closed) := by
  have mayEnd : Record.MayEndAfter memberFields items.length := by
    rw [full]
    exact ⟨Nat.le_refl 8, fun field fieldMem => absurd fieldMem List.not_mem_nil⟩
  rw [member, Record.vet_array (by decide) mayEnd, ← member]

theorem member_memberItems (m : Member) (deep : 1 < depth) :
    member depth (Value.array (memberItems m)).draft = .ok m := by
  rw [Value.draft_array, member_array rfl]
  exact member_of_describes deep isValue_of_mem_inOrder (describesMember_memberItems m)

/-- The fields of a member take its values, each in its place. -/
theorem checked_memberItems (m : Member) :
    List.Forall₂ (fun field d => field.check depth d = .ok ()) memberFields
      ((memberItems m).map Value.draft) := by
  simp only [memberFields, memberItems, List.map_cons, List.forall₂_cons,
    Record.check_of_eq_ok_iff, Decoder.text_eq_ok_iff, Decoder.uint32_eq_ok_iff,
    Decoder.uint64_eq_ok_iff]
  exact ⟨⟨_, Value.isLiteral_natural _⟩, ⟨_, rfl⟩, ⟨_, rfl⟩, ⟨_, nullable_gid m.rdmaGid⟩,
    ⟨_, Value.isLiteral_natural _⟩, ⟨_, Value.isLiteral_natural _⟩,
    ⟨_, status_statusValue m.status depth⟩, ⟨_, instant_text m.joinedAt depth⟩, .nil⟩

/-- No field of a member may be left out at the end of its array. -/
theorem member_take_memberItems (m : Member) (deep : 1 < depth) {count : Nat} (short : count < 8) :
    member depth (Value.array ((memberItems m).take count)).draft =
      .error (.misfit (.length count "struct NodeRecord with 8 elements")) := by
  have length : (((memberItems m).take count).map Value.draft).length = count := by
    rw [List.length_map, List.length_take]
    exact Nat.min_eq_left (Nat.le_of_lt short)
  have checked : List.Forall₂ (fun field d => field.check (depth - 1) d = .ok ())
      (memberFields.take count) (((memberItems m).take count).map Value.draft) := by
    rw [List.map_take]
    exact List.forall₂_take count (checked_memberItems m)
  have demanded : ∀ field ∈ memberFields, field.mayEnd = false := by
    simp [memberFields, Field.of]
  have title : Record.arrayTitle "NodeRecord" memberFields =
      "struct NodeRecord with 8 elements" := by
    decide
  have refused : Record.vet "NodeRecord" memberFields depth
      (.array (((memberItems m).take count).map Value.draft) true) = _ :=
    Record.vet_array_of_short deep (by rwa [length]) (by rwa [length]) demanded
  rw [length, title] at refused
  rw [Value.draft_array, member, refused]
  rfl

end Members

/-! ## Requests for clusters -/

section Clusters

variable {depth : Nat}

/-- An array is read as the request that says the same fields by name. -/
theorem clusterRequest_array {items : List Draft} (enough : 1 ≤ items.length)
    (fits : items.length ≤ clusterRequestFields.length) :
    clusterRequest depth (.array items true) =
      clusterRequest depth
        (.object ((inOrder clusterRequestFields items).map Record.named) .closed) := by
  have optional : ∀ field ∈ clusterRequestFields.drop 1, field.mayEnd = true := by
    simp [clusterRequestFields, Field.orEnd]
  rw [clusterRequest, Record.vet_array (by decide)
    (Record.mayEndAfter_of_drop optional enough fits), ← clusterRequest]

/-- The members of a request: the name, and the nodes unless they are left out. -/
inductive WritesRequest : List (String × Value) → ClusterRequest → Prop
  | bare (name : String) : WritesRequest [("name", .text name)] ⟨name, []⟩
  | full (name : String) {items : List Value} {nodes : List NodeSpec}
      (written : List.Forall₂ WritesNode items nodes) :
      WritesRequest [("name", .text name), ("nodes", .array items)] ⟨name, nodes⟩

theorem plain_of_writesNode {items : List Value} {nodes : List NodeSpec}
    (written : List.Forall₂ WritesNode items nodes) : ∀ item ∈ items, item.Plain := by
  induction written with
  | nil => exact fun item itemMem => absurd itemMem List.not_mem_nil
  | cons first _ ih => exact List.forall_mem_cons.mpr ⟨first.plain, ih⟩

namespace WritesRequest

variable {members : List (String × Value)} {request : ClusterRequest}

theorem plain (writes : WritesRequest members request) : ∀ m ∈ members, m.2.Plain := by
  cases writes with
  | bare name => simp [Value.Plain.text]
  | full name written => simp [Value.Plain.text, Value.Plain.array (plain_of_writesNode written)]

/-- A request is described by its members, with the nodes in any form. -/
theorem describesCluster (writes : WritesRequest members request) (deep : 3 < depth) :
    DescribesCluster depth (Value.drafts members) request := by
  cases writes with
  | bare name => exact ⟨⟨_, rfl, rfl⟩, .inl ⟨rfl, rfl⟩⟩
  | full name written =>
      refine ⟨⟨_, rfl, rfl⟩, .inr ⟨_, rfl, _, Value.draft_array _, ?_⟩⟩
      rw [List.forall₂_map_left_iff]
      exact written.imp fun item spec writes => writes.nodeSpec_eq (by omega)

theorem clusterRequest_object (writes : WritesRequest members request) (deep : 4 < depth) :
    clusterRequest depth (Value.object members).draft = .ok request := by
  rw [Value.draft_object, clusterRequest_eq_ok_iff (by omega) Value.isValue_of_mem_drafts]
  exact writes.describesCluster (by omega)

theorem clusterRequest_items (writes : WritesRequest members request) (deep : 4 < depth) :
    clusterRequest depth (Value.array (members.map Prod.snd)).draft = .ok request := by
  have length : 1 ≤ ((members.map Prod.snd).map Value.draft).length ∧
      ((members.map Prod.snd).map Value.draft).length ≤ clusterRequestFields.length := by
    cases writes <;> simp [clusterRequestFields]
  have named : inOrder clusterRequestFields ((members.map Prod.snd).map Value.draft) =
      Value.drafts members := by
    cases writes <;> rfl
  rw [Value.draft_array, clusterRequest_array length.1 length.2, named, ← Value.draft_object]
  exact writes.clusterRequest_object deep

end WritesRequest

end Clusters

/-! ## Arrays that are too long -/

section Lengths

variable {depth : Nat} {items : List Draft} {closed : Bool}

theorem length_le_of_nodeSpec {spec : NodeSpec}
    (decoded : nodeSpec depth (.array items closed) = .ok spec) : items.length ≤ 8 := by
  obtain ⟨kept, vetted, -⟩ := bind_eq_ok_iff.mp decoded
  exact Record.length_le_of_vet_array vetted

theorem length_le_of_member {m : Member}
    (decoded : member depth (.array items closed) = .ok m) : items.length ≤ 8 := by
  obtain ⟨kept, vetted, -⟩ := bind_eq_ok_iff.mp decoded
  exact Record.length_le_of_vet_array vetted

theorem length_le_of_clusterRequest {request : ClusterRequest}
    (decoded : clusterRequest depth (.array items closed) = .ok request) : items.length ≤ 2 := by
  obtain ⟨kept, vetted, -⟩ := bind_eq_ok_iff.mp decoded
  exact Record.length_le_of_vet_array vetted

/-- The number of fields of a transport. -/
def fieldCount : Transport → Nat
  | .tcp => tcpFields.length
  | .rdma => rdmaFields.length

/-- An array that is an endpoint holds the tag and exactly the fields of its transport. -/
theorem items_of_endpoint {e : Endpoint}
    (decoded : endpoint depth (.array items closed) = .ok e) :
    ∃ t : Transport, ∃ others, items = .text (some t.name) :: others ∧
      others.length = fieldCount t := by
  obtain ⟨name, chosen, others, rfl, names, length⟩ := Tagged.length_eq_of_decode_array decoded
  rcases cases_of_lookup names with ⟨rfl, fields, -⟩ | ⟨rfl, fields, -⟩
  · exact ⟨.tcp, others, rfl, by rw [length, fields]; rfl⟩
  · exact ⟨.rdma, others, rfl, by rw [length, fields]; rfl⟩

end Lengths

/-- An array with any other number of fields after its tag is no endpoint. -/
theorem endpoint_ne_ok {t : Transport} (miscounted : items.length ≠ fieldCount t) (e : Endpoint) :
    endpoint depth (.array (.text (some t.name) :: items) closed) ≠ .ok e := by
  intro decoded
  obtain ⟨u, others, same, count⟩ := items_of_endpoint decoded
  obtain ⟨names, rfl⟩ := List.cons.inj same
  have tags : t.name = u.name := by simpa using names
  have transports : t = u := by cases t <;> cases u <;> first | rfl | exact absurd tags (by decide)
  exact miscounted (transports ▸ count)

theorem length_le_of_endpoint {e : Endpoint}
    (decoded : endpoint depth (.array items closed) = .ok e) : items.length ≤ 5 := by
  obtain ⟨t, others, rfl, count⟩ := items_of_endpoint decoded
  rw [List.length_cons, count]
  cases t <;> decide

/-! ## Texts -/

/-- What is written as an array of its fields is read to the same value as what is written
as an object: descriptions of nodes with their endpoint in either form, with or without
a status and an endpoint at the end that are `null`; members; endpoints; requests for
clusters with their nodes in any form, with or without an array of nodes.  A member whose
array ends early is refused because of its length.  An array with the tag of a transport
is refused if it does not hold exactly the fields of the transport, and every array is
refused that holds more than the fields. -/
theorem positional_and_keyed_forms_agree :
    (∀ form spec count, Suffices form spec count →
      Decoder.ofText nodeSpec (Value.array ((nodeSpecItems form spec).take count)).render =
        .ok spec ∧
      Decoder.ofText nodeSpec (nodeSpecValue spec).render = .ok spec) ∧
    (∀ m, Decoder.ofText member (Value.array (memberItems m)).render = .ok m ∧
      Decoder.ofText member (memberValue m).render = .ok m) ∧
    (∀ m, ∀ count < 8,
      Decoder.ofText member (Value.array ((memberItems m).take count)).render =
        .error (.misfit (.length count "struct NodeRecord with 8 elements"))) ∧
    (∀ form e, Decoder.ofText endpoint (endpointForm form e).render = .ok e) ∧
    (∀ s t items closed rest,
      Draft.ofText s.toList = (.array (.text (some (Transport.name t)) :: items) closed, rest) →
      items.length ≠ fieldCount t → ∃ refusal, Decoder.ofText endpoint s = .error refusal) ∧
    (∀ members request, WritesRequest members request →
      Decoder.ofText clusterRequest (Value.array (members.map Prod.snd)).render = .ok request ∧
      Decoder.ofText clusterRequest (Value.object members).render = .ok request) ∧
    (∀ s items closed rest, Draft.ofText s.toList = (.array items closed, rest) →
      (8 < items.length → ∃ refusal, Decoder.ofText nodeSpec s = .error refusal) ∧
      (8 < items.length → ∃ refusal, Decoder.ofText member s = .error refusal) ∧
      (2 < items.length → ∃ refusal, Decoder.ofText clusterRequest s = .error refusal) ∧
      (5 < items.length → ∃ refusal, Decoder.ofText endpoint s = .error refusal)) := by
  refine ⟨?nodes, ?members, ?shortMembers, ?endpoints, ?miscounted, ?requests, ?tooLong⟩
  case nodes =>
    intro form spec count enough
    have writes : WritesNode _ spec := .positional enough
    rw [Decoder.ofText_render writes.plain]
    exact ⟨writes.nodeSpec_eq (by decide), ofText_nodeSpecValue spec⟩
  case members =>
    intro m
    rw [Decoder.ofText_render (.array (plain_memberItems m)),
      Decoder.ofText_render (plain_memberValue m)]
    exact ⟨member_memberItems m (by decide), member_memberValue m (by decide)⟩
  case shortMembers =>
    intro m count short
    have plain : (Value.array ((memberItems m).take count)).Plain :=
      .array fun item itemMem => plain_memberItems m item (List.mem_of_mem_take itemMem)
    rw [Decoder.ofText_render plain]
    exact member_take_memberItems m (by decide) short
  case endpoints =>
    intro form e
    rw [Decoder.ofText_render (plain_endpointForm form e)]
    exact endpoint_endpointForm form e (by decide)
  case miscounted =>
    intro s t items closed rest read miscounted
    exact Decoder.exists_refusal read (endpoint_ne_ok miscounted)
  case requests =>
    intro members request writes
    have plain : (Value.array (members.map Prod.snd)).Plain := by
      apply Value.Plain.array
      intro item itemMem
      obtain ⟨m, mMem, rfl⟩ := List.mem_map.mp itemMem
      exact writes.plain m mMem
    rw [Decoder.ofText_render plain, Decoder.ofText_render (.object writes.plain)]
    exact ⟨writes.clusterRequest_items (by decide), writes.clusterRequest_object (by decide)⟩
  case tooLong =>
    intro s items closed rest read
    refine ⟨fun long => ?_, fun long => ?_, fun long => ?_, fun long => ?_⟩
    · exact Decoder.exists_refusal read fun spec decoded =>
        Nat.not_lt.mpr (length_le_of_nodeSpec decoded) long
    · exact Decoder.exists_refusal read fun m decoded =>
        Nat.not_lt.mpr (length_le_of_member decoded) long
    · exact Decoder.exists_refusal read fun request decoded =>
        Nat.not_lt.mpr (length_le_of_clusterRequest decoded) long
    · exact Decoder.exists_refusal read fun e decoded =>
        Nat.not_lt.mpr (length_le_of_endpoint decoded) long

/-- A node with a group and neither a status nor an endpoint. -/
def groupNode : NodeSpec :=
  ⟨9, "g", "", some "fe80::9", 8, 64, none, none⟩

/-- A node with a socket. -/
def socketNode : NodeSpec :=
  ⟨7, "s", "", none, 8, 64, none, some (.tcp "h" 7)⟩

/-- Two nodes in one request, the one ending after six fields, the other with its endpoint
in an array; a socket without its port; a request with a third field. -/
theorem short_and_full_arrays_are_read :
    Decoder.ofText nodeSpec "[9,\"g\",\"\",\"fe80::9\",8,64]" = .ok groupNode ∧
    Decoder.ofText clusterRequest
        ("[\"c\",[[9,\"g\",\"\",\"fe80::9\",8,64]," ++
          "[7,\"s\",\"\",null,8,64,null,[\"tcp\",\"h\",7]]]]") =
      .ok ⟨"c", [groupNode, socketNode]⟩ ∧
    (∃ refusal, Decoder.ofText endpoint "[\"tcp\",\"h\"]" = .error refusal) ∧
    (∃ refusal, Decoder.ofText clusterRequest "[\"c\",[],0]" = .error refusal) := by
  obtain ⟨nodes, -, -, -, miscounted, requests, tooLong⟩ := positional_and_keyed_forms_agree
  have six : Suffices .positional groupNode 6 :=
    ⟨by decide, by decide, by simp [nodeSpecItems, groupNode, nullableValue]⟩
  have eight : Suffices .positional socketNode 8 :=
    ⟨by decide, by decide, by simp [nodeSpecItems]⟩
  have two : WritesRequest _ ⟨"c", [groupNode, socketNode]⟩ :=
    .full "c" (.cons (.positional six) (.cons (.positional eight) .nil))
  have read : Draft.ofText "[\"tcp\",\"h\"]".toList =
      (.array [.text (some (Transport.name .tcp)), .text (some "h")] true, []) := by
    rfl
  have readRequest : Draft.ofText "[\"c\",[],0]".toList =
      (.array [.text (some "c"), .array [] true, .number (.ofNat 0)] true, []) := by
    rfl
  exact ⟨(nodes .positional groupNode 6 six).1, (requests _ _ two).1,
    miscounted _ .tcp _ _ _ read (by decide), (tooLong _ _ _ _ readRequest).2.2.1 (by decide)⟩

end ControlPlane.Wire
