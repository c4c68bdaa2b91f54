import ControlPlane.Proofs.Wire.RoundTrip

/-!
# Texts of endpoints, alone and inside nodes

The text of an object is an endpoint exactly if it describes one.  Standing as the
endpoint of a node it is decoded as it is alone: the node is accepted with that
endpoint, or refused for the reason why the text is no endpoint.
-/

namespace ControlPlane.Wire

open ControlPlane.Json

/-! ## Inside nodes -/

section Nodes

variable {before after : List (String × Draft)} {spec : NodeSpec} {depth : Nat} {d : Draft}

/-- A description of a node stays one with an endpoint among its members. -/
theorem DescribesNode.insert_endpoint {e : Endpoint}
    (describes : DescribesNode depth (before ++ after) spec)
    (unsaid : valuesOf (before ++ after) "endpoint" = []) (decoded : endpoint depth d = .ok e) :
    DescribesNode depth (before ++ ("endpoint", d) :: after) { spec with endpoint := some e } := by
  have same {name : String} (differs : "endpoint" ≠ name) :
      (valuesOf (before ++ after) name).Perm
        (valuesOf (before ++ ("endpoint", d) :: after) name) := by
    rw [valuesOf_append, valuesOf_append, valuesOf_cons_of_ne differs]
  have inserted : valuesOf (before ++ ("endpoint", d) :: after) "endpoint" = [d] := by
    rw [valuesOf_append, List.append_eq_nil_iff] at unsaid
    rw [valuesOf_append, valuesOf_cons_self, unsaid.1, unsaid.2]
    rfl
  have foreign : ∀ f ∈ requiredFields spec, "endpoint" ≠ f.1 := by
    simp [requiredFields]
  obtain ⟨required, gid, status, -⟩ := describes
  refine ⟨?_, ?_, ?_, ⟨d, inserted, decoded⟩⟩
  · exact fun f fMem => (once_congr (same (foreign f fMem))).mp (required f fMem)
  · exact (optionally_congr (same (by decide))).mp gid
  · exact (optionally_congr (same (by decide))).mp status

/-- A node is refused because of its endpoint if nothing else is wrong. -/
theorem nodeSpec_of_refused_endpoint {refusal : Refusal} (deep : 1 < depth)
    (values : ∀ m ∈ before, m.2.isValue = true)
    (vettable : Record.Vettable nodeSpecFields (depth - 1) [] (before ++ after))
    (unsaid : valuesOf (before ++ after) "endpoint" = [])
    (refused : endpoint (depth - 1) d = .error refusal) (present : d ≠ .null) :
    nodeSpec depth (.object ((before ++ ("endpoint", d) :: after).map Record.named) .closed) =
      .error refusal := by
  have checked : (Field.of "endpoint" (.nullable endpoint)).orEnd.check (depth - 1) d =
      .error refusal := by
    simp only [Field.of, Field.orEnd, Decoder.nullable_of_present present, refused]
    rfl
  have vetted : Record.vetMembers nodeSpecFields (depth - 1) .closed []
      (before.map Record.named ++ (some "endpoint", d) :: after.map Record.named) =
        .error refusal :=
    Record.vetMembers_of_unfit values vettable.of_append rfl List.not_mem_nil
      (List.append_eq_nil_iff.mp (valuesOf_append _ _ _ ▸ unsaid)).1 checked _ _
  simp only [nodeSpec, Record.vet, enter_of_deep deep, List.map_append, List.map_cons, bind,
    Except.bind, vetted]

/-- Whatever stands as the endpoint of a node that lacks one decides alone about the node:
its endpoint becomes that of the node, its refusal the refusal of the node. -/
theorem nodeSpec_insert_endpoint (deep : 2 < depth)
    (values : ∀ m ∈ before ++ after, m.2.isValue = true) (value : d.isValue = true)
    (accepted : nodeSpec depth (.object ((before ++ after).map Record.named) .closed) = .ok spec)
    (unsaid : valuesOf (before ++ after) "endpoint" = []) (present : d ≠ .null) :
    nodeSpec depth (.object ((before ++ ("endpoint", d) :: after).map Record.named) .closed) =
      (endpoint (depth - 1) d).map fun e => { spec with endpoint := some e } := by
  have describes := (nodeSpec_eq_ok_iff deep values).mp accepted
  have allValues : ∀ m ∈ before ++ ("endpoint", d) :: after, m.2.isValue = true := by
    rw [List.forall_mem_append] at values
    rw [List.forall_mem_append, List.forall_mem_cons]
    exact ⟨values.1, value, values.2⟩
  cases decoded : endpoint (depth - 1) d with
  | ok e => exact (nodeSpec_eq_ok_iff deep allValues).mpr (describes.insert_endpoint unsaid decoded)
  | error refusal =>
      have sketches := (describesNode_iff.mp describes).1
      exact nodeSpec_of_refused_endpoint (Nat.lt_of_succ_lt deep)
        (fun m mMem => values m (List.mem_append_left after mMem))
        (sketches.vettable (by omega)) unsaid decoded present

end Nodes

/-! ## Texts -/

section Texts

variable {s : String} {members : List (String × Draft)} {depth : Nat}

/-- The members of a clear object may be looked into if there is room for its containers. -/
theorem isReadable_of_isClear
    (clear : (Draft.object (members.map Record.named) .closed).isClear = true)
    (fits : (Draft.object (members.map Record.named) .closed).nesting < depth) :
    ∀ m ∈ members, m.2.isReadable (depth - 1) = true := by
  have readable :=
    (Draft.isReadable_iff _ (Nat.zero_lt_of_lt fits)).mpr ⟨clear, fits⟩
  simp only [Draft.isReadable, Bool.and_eq_true] at readable
  exact Draft.areReadableMembers_named_iff.mp readable.1.2

/-- The text of an object without lone surrogates and overflowing numbers that nests at most
120 containers is an endpoint exactly if it names a transport once and says each field of
that transport once, with a value of its type, and then it is the endpoint with these
values.  If nothing is wrong but that fields are absent, the refusal is about the first
of them.  The order of the members makes no difference.  As the endpoint of a node the
text is decoded as it is alone, wherever the member stands: what else the node says is
accepted without it. -/
theorem object_texts_are_endpoints (object : IsObjectText s members)
    (clear : (Draft.object (members.map Record.named) .closed).isClear = true)
    (shallow : (Draft.object (members.map Record.named) .closed).nesting ≤ 120) :
    (∀ e, Decoder.ofText endpoint s = .ok e ↔ DescribesEndpoint members e) ∧
    (∀ e name, SketchesEndpoint members e → firstAbsent? members (fieldNames e) = some name →
      Decoder.ofText endpoint s = .error (.misfit (.missing name))) ∧
    (∀ other others, IsObjectText other others → members.Perm others →
      ∀ e, Decoder.ofText endpoint s = .ok e ↔ Decoder.ofText endpoint other = .ok e) ∧
    (∀ bare node before after spec, IsObjectText bare (before ++ after) →
      Decoder.ofText nodeSpec bare = .ok spec → valuesOf (before ++ after) "endpoint" = [] →
      IsObjectText node
        (before ++ ("endpoint", .object (members.map Record.named) .closed) :: after) →
      Decoder.ofText nodeSpec node =
        (Decoder.ofText endpoint s).map fun e => { spec with endpoint := some e }) ∧
    (∀ spec, spec.endpoint = none →
      Decoder.ofText nodeSpec (withFirstMember "endpoint" s (nodeSpecMembers spec)) =
        (Decoder.ofText endpoint s).map fun e => { spec with endpoint := some e }) := by
  have deep : 1 < depthLimit := by decide
  have fits : (Draft.object (members.map Record.named) .closed).nesting < depthLimit :=
    Nat.lt_of_le_of_lt shallow (by decide)
  have readable := isReadable_of_isClear clear fits
  have inside (bare node : String) (before after : List (String × Draft)) (spec : NodeSpec)
      (bareObject : IsObjectText bare (before ++ after))
      (accepted : Decoder.ofText nodeSpec bare = .ok spec)
      (unsaid : valuesOf (before ++ after) "endpoint" = [])
      (nodeObject : IsObjectText node
        (before ++ ("endpoint", .object (members.map Record.named) .closed) :: after)) :
      Decoder.ofText nodeSpec node =
        (Decoder.ofText endpoint s).map fun e => { spec with endpoint := some e } := by
    rw [bareObject.ofText_eq] at accepted
    rw [nodeObject.ofText_eq, object.ofText_eq,
      nodeSpec_insert_endpoint (by decide) bareObject.isValue_of_mem
        (Draft.isValue_of_isClear _ clear) accepted unsaid nofun,
      endpoint_congr (Nat.lt_of_le_of_lt shallow (by decide)) fits]
  refine ⟨?_, ?_, ?_, inside, ?_⟩
  · intro e
    rw [object.ofText_eq]
    exact endpoint_eq_ok_iff deep readable
  · intro e name sketches absent
    rw [object.ofText_eq, endpoint_of_sketched deep readable sketches, Record.complete, absent]
  · intro other others otherObject reordered e
    have othersReadable : ∀ m ∈ others, m.2.isReadable (depthLimit - 1) = true :=
      fun m mMem => readable m (reordered.mem_iff.mpr mMem)
    rw [object.ofText_eq, otherObject.ofText_eq, endpoint_eq_ok_iff deep readable,
      endpoint_eq_ok_iff deep othersReadable]
    exact ⟨fun describes => describes.of_alike fun name _ => perm_valuesOf reordered name,
      fun describes => describes.of_alike fun name _ => perm_valuesOf reordered.symm name⟩
  · intro spec lacking
    have unsaid : valuesOf (Value.drafts (nodeSpecMembers spec)) "endpoint" = [] := by
      obtain ⟨_, _, _, rdmaGid, _, _, status, _⟩ := spec
      cases lacking
      cases rdmaGid <;> cases status <;> rfl
    exact inside (nodeSpecValue spec).render _ [] _ spec
      (isObjectText_render (plain_nodeSpecMembers spec)) (ofText_nodeSpecValue spec) unsaid
      (object.inside "endpoint" (plain_nodeSpecMembers spec))

end Texts

/-- A socket with its tag in the middle and members that are fields of a queue pair. -/
def mixedEndpoint : String :=
  "\x7b\"tcp_port\":7,\"rdma_qpn\":[1],\"transport_type\":\"tcp\"," ++
    "\"rdma_qpn\":null,\"tcp_addr\":\"h\"\x7d"

/-- What it says. -/
def mixedMembers : List (String × Draft) :=
  [("tcp_port", .number (.ofNat 7)), ("rdma_qpn", .array [.number (.ofNat 1)] true),
   ("transport_type", .text (some "tcp")), ("rdma_qpn", .null), ("tcp_addr", .text (some "h"))]

/-- The text is a socket, also as the endpoint of a node. -/
theorem mixedEndpoint_is_endpoint :
    Decoder.ofText endpoint mixedEndpoint = .ok (.tcp "h" 7) ∧
    Decoder.ofText nodeSpec
        (withFirstMember "endpoint" mixedEndpoint
          (nodeSpecMembers ⟨7, "n", "", none, 8, 64, none, none⟩)) =
      .ok ⟨7, "n", "", none, 8, 64, none, some (.tcp "h" 7)⟩ := by
  have object : IsObjectText mixedEndpoint mixedMembers := by
    rw [IsObjectText]
    rfl
  obtain ⟨read, -, -, -, readInside⟩ :=
    object_texts_are_endpoints object (by decide +kernel) (by decide +kernel)
  have alone : Decoder.ofText endpoint mixedEndpoint = .ok (.tcp "h" 7) := by
    rw [read]
    refine ⟨rfl, ?_⟩
    simp only [describedFields, List.forall_mem_cons]
    exact ⟨⟨_, rfl, rfl⟩, ⟨_, rfl, [7], rfl, rfl⟩, by simp⟩
  refine ⟨alone, ?_⟩
  rw [readInside ⟨7, "n", "", none, 8, 64, none, none⟩ rfl, alone]
  rfl

end ControlPlane.Wire
