import ControlPlane.Proofs.Json.Tagging
import ControlPlane.Wire.Endpoint

/-!
# Which objects are endpoints

An object describes an endpoint if it names the transport once and says each field of
that transport once, with a value of its type.  Nothing else about the object
matters: not the order of its members, nor what it says of the other transport or of
names that nobody asks for.
-/

namespace ControlPlane.Wire

open ControlPlane.Json

/-- The fields of an endpoint, and what their values have to be. -/
def describedFields : Endpoint → List (String × (Draft → Prop))
  | .tcp addr port =>
      [("tcp_addr", fun d => d = .text (some addr)),
       ("tcp_port", fun d => d.IsLiteral port.toNat)]
  | .rdma qpn lid gid psn =>
      [("rdma_qpn", fun d => d.IsLiteral qpn.toNat), ("rdma_lid", fun d => d.IsLiteral lid.toNat),
       ("rdma_gid", fun d => d = .text (some gid)), ("rdma_psn", fun d => d.IsLiteral psn.toNat)]

/-- The object names the transport of an endpoint and says each of its fields once. -/
def DescribesEndpoint (members : List (String × Draft)) (e : Endpoint) : Prop :=
  valuesOf members "transport_type" = [.text (some e.transport.name)] ∧
    ∀ f ∈ describedFields e, Once members f.1 f.2

/-- The object describes an endpoint except that fields may be absent. -/
def SketchesEndpoint (members : List (String × Draft)) (e : Endpoint) : Prop :=
  valuesOf members "transport_type" = [.text (some e.transport.name)] ∧
    ∀ f ∈ describedFields e, AtMostOnce members f.1 f.2

/-- The names of the fields of an endpoint, in the order of declaration. -/
def fieldNames (e : Endpoint) : List String :=
  (describedFields e).map Prod.fst

theorem describesEndpoint_iff {members : List (String × Draft)} {e : Endpoint} :
    DescribesEndpoint members e ↔
      SketchesEndpoint members e ∧ firstAbsent? members (fieldNames e) = none := by
  rw [DescribesEndpoint, SketchesEndpoint, forall_once_iff, and_assoc, fieldNames]

/-- Only what is said of the tag and of the fields of the transport counts. -/
theorem DescribesEndpoint.of_alike {members others : List (String × Draft)} {e : Endpoint}
    (describes : DescribesEndpoint members e)
    (alike : ∀ name ∈ endpointTag :: fieldNames e,
      (valuesOf members name).Perm (valuesOf others name)) : DescribesEndpoint others e := by
  rw [List.forall_mem_cons] at alike
  obtain ⟨tagAlike, fieldsAlike⟩ := alike
  obtain ⟨tagged, said⟩ := describes
  constructor
  · change valuesOf members endpointTag = _ at tagged
    rw [tagged] at tagAlike
    exact (List.singleton_perm.mp tagAlike).symm
  · intro f fMem
    exact (once_congr (fieldsAlike f.1 (List.mem_map_of_mem fMem))).mp (said f fMem)

/-! ## Fields of either transport -/

theorem isSome_lookup_endpointAlternatives (t : Transport) :
    (endpointAlternatives.lookup t.name).isSome = true := by
  cases t <;> rfl

/-- The alternative that an endpoint is one of. -/
def endpointAlternative (e : Endpoint) : Alternative Endpoint :=
  (endpointAlternatives.lookup e.transport.name).get
    (isSome_lookup_endpointAlternatives e.transport)

theorem lookup_endpointAlternatives (e : Endpoint) :
    endpointAlternatives.lookup e.transport.name = some (endpointAlternative e) :=
  (Option.some_get _).symm

theorem vettable_tcpFields_iff {members : List (String × Draft)} {depth : Nat} :
    Record.Vettable tcpFields depth [] members ↔
      AtMostOnce members "tcp_addr" (fun d => ∃ addr, d = .text (some addr)) ∧
      AtMostOnce members "tcp_port" (fun d => ∃ port : UInt16, d.IsLiteral port.toNat) := by
  have distinct : (tcpFields.map Field.name).Nodup := by decide
  rw [Record.vettable_iff_of_distinct distinct]
  simp only [tcpFields, List.forall_mem_cons, Record.check_of_eq_ok_iff, Decoder.text_eq_ok_iff,
    Decoder.uint16_eq_ok_iff]
  simp [Field.of]

theorem vettable_rdmaFields_iff {members : List (String × Draft)} {depth : Nat} :
    Record.Vettable rdmaFields depth [] members ↔
      AtMostOnce members "rdma_qpn" (fun d => ∃ qpn : UInt32, d.IsLiteral qpn.toNat) ∧
      AtMostOnce members "rdma_lid" (fun d => ∃ lid : UInt16, d.IsLiteral lid.toNat) ∧
      AtMostOnce members "rdma_gid" (fun d => ∃ gid, d = .text (some gid)) ∧
      AtMostOnce members "rdma_psn" (fun d => ∃ psn : UInt32, d.IsLiteral psn.toNat) := by
  have distinct : (rdmaFields.map Field.name).Nodup := by decide
  rw [Record.vettable_iff_of_distinct distinct]
  simp only [rdmaFields, List.forall_mem_cons, Record.check_of_eq_ok_iff, Decoder.text_eq_ok_iff,
    Decoder.uint16_eq_ok_iff, Decoder.uint32_eq_ok_iff]
  simp [Field.of]

/-- There are two transports, each with its own fields. -/
theorem cases_of_lookup {name : String} {chosen : Alternative Endpoint}
    (names : endpointAlternatives.lookup name = some chosen) :
    (name = "tcp" ∧ chosen.fields = tcpFields ∧ chosen.build = buildTcp) ∨
      (name = "rdma" ∧ chosen.fields = rdmaFields ∧ chosen.build = buildRdma) := by
  rw [endpointAlternatives, List.lookup_cons] at names
  split at names
  · next isTcp =>
      cases names
      exact .inl ⟨beq_iff_eq.mp isTcp, rfl, rfl⟩
  · rw [List.lookup_cons] at names
    split at names
    · next isRdma =>
        cases names
        exact .inr ⟨beq_iff_eq.mp isRdma, rfl, rfl⟩
    · cases names

theorem nodup_of_lookup {name : String} {chosen : Alternative Endpoint}
    (names : endpointAlternatives.lookup name = some chosen) :
    (chosen.fields.map Field.name).Nodup := by
  rcases cases_of_lookup names with ⟨-, fields, -⟩ | ⟨-, fields, -⟩ <;>
    rw [fields] <;>
    decide

/-- The tag is a field of neither transport. -/
theorem field?_endpointTag {name : String} {chosen : Alternative Endpoint}
    (names : endpointAlternatives.lookup name = some chosen) :
    Record.field? chosen.fields endpointTag = none := by
  rcases cases_of_lookup names with ⟨-, fields, -⟩ | ⟨-, fields, -⟩ <;>
    rw [fields] <;>
    rfl

/-- No field of a transport is a container. -/
theorem isFlat_of_lookup {name : String} {chosen : Alternative Endpoint}
    (names : endpointAlternatives.lookup name = some chosen) : chosen.IsFlat := by
  have text := Field.isFlat_of Decoder.isFlat_text
  have uint16 := Field.isFlat_of Decoder.isFlat_uint16
  have uint32 := Field.isFlat_of Decoder.isFlat_uint32
  rcases cases_of_lookup names with ⟨-, fields, build⟩ | ⟨-, fields, build⟩
  · constructor
    · rw [fields]
      simp only [tcpFields, List.forall_mem_cons]
      exact ⟨text _, uint16 _, by simp⟩
    · intro kept depth other
      simp only [build, buildTcp, Record.required_congr Decoder.isFlat_text kept _ depth other,
        Record.required_congr Decoder.isFlat_uint16 kept _ depth other]
  · constructor
    · rw [fields]
      simp only [rdmaFields, List.forall_mem_cons]
      exact ⟨uint32 _, uint16 _, text _, uint32 _, by simp⟩
    · intro kept depth other
      simp only [build, buildRdma, Record.required_congr Decoder.isFlat_text kept _ depth other,
        Record.required_congr Decoder.isFlat_uint16 kept _ depth other,
        Record.required_congr Decoder.isFlat_uint32 kept _ depth other]

/-- Where there is room for its containers, an endpoint is decoded in the same way, and
refused for the same reason, however deep it stands. -/
theorem endpoint_congr {depth other : Nat} {d : Draft} (fits : d.nesting < depth)
    (fitsToo : d.nesting < other) : endpoint depth d = endpoint other d :=
  Tagged.decode_congr (fun _ _ => isFlat_of_lookup) fits fitsToo

/-! ## Decoding -/

section Decoding

variable {members : List (String × Draft)} {e : Endpoint} {depth : Nat}

/-- An object that sketches an endpoint is that endpoint, or it is refused because of
the first field that is absent. -/
theorem endpoint_of_sketched (deep : 1 < depth)
    (readable : ∀ m ∈ members, m.2.isReadable (depth - 1) = true)
    (sketches : SketchesEndpoint members e) :
    endpoint depth (.object (members.map Record.named) .closed) =
      Record.complete members (fieldNames e) e := by
  have tagged : valuesOf members endpointTag = [.text (some e.transport.name)] := sketches.1
  have names := lookup_endpointAlternatives e
  have said := sketches.2
  cases e with
  | tcp addr port =>
      simp only [describedFields, List.forall_mem_cons] at said
      obtain ⟨addrSaid, portSaid, -⟩ := said
      have vettable : Record.Vettable tcpFields (depth - 1) [] members :=
        vettable_tcpFields_iff.mpr ⟨addrSaid.imp fun d value => ⟨addr, value⟩,
          portSaid.imp fun d value => ⟨port, value⟩⟩
      rw [endpoint, Tagged.decode_object_of_vettable deep readable tagged names
        (field?_endpointTag names) vettable]
      change buildTcp _ _ = _
      rw [buildTcp,
        Record.required_eq_demand rfl (addrSaid.imp fun d => Decoder.text_eq_ok_iff.mpr),
        Record.required_eq_demand rfl (portSaid.imp fun d => Decoder.uint16_eq_ok_iff.mpr)]
      exact Record.bind_demand (Record.bind_demand rfl)
  | rdma qpn lid gid psn =>
      simp only [describedFields, List.forall_mem_cons] at said
      obtain ⟨qpnSaid, lidSaid, gidSaid, psnSaid, -⟩ := said
      have vettable : Record.Vettable rdmaFields (depth - 1) [] members :=
        vettable_rdmaFields_iff.mpr ⟨qpnSaid.imp fun d value => ⟨qpn, value⟩,
          lidSaid.imp fun d value => ⟨lid, value⟩, gidSaid.imp fun d value => ⟨gid, value⟩,
          psnSaid.imp fun d value => ⟨psn, value⟩⟩
      rw [endpoint, Tagged.decode_object_of_vettable deep readable tagged names
        (field?_endpointTag names) vettable]
      change buildRdma _ _ = _
      rw [buildRdma,
        Record.required_eq_demand rfl (qpnSaid.imp fun d => Decoder.uint32_eq_ok_iff.mpr),
        Record.required_eq_demand rfl (lidSaid.imp fun d => Decoder.uint16_eq_ok_iff.mpr),
        Record.required_eq_demand rfl (gidSaid.imp fun d => Decoder.text_eq_ok_iff.mpr),
        Record.required_eq_demand rfl (psnSaid.imp fun d => Decoder.uint32_eq_ok_iff.mpr)]
      exact Record.bind_demand (Record.bind_demand (Record.bind_demand (Record.bind_demand rfl)))

/-- An object that is decoded at least sketches some endpoint. -/
theorem exists_sketchesEndpoint (deep : 1 < depth)
    (readable : ∀ m ∈ members, m.2.isReadable (depth - 1) = true)
    (decoded : endpoint depth (.object (members.map Record.named) .closed) = .ok e) :
    ∃ sketched, SketchesEndpoint members sketched := by
  obtain ⟨name, chosen, tagged, names, vettable⟩ :=
    Tagged.exists_of_decode_object deep readable (fun _ _ => field?_endpointTag) decoded
  rcases cases_of_lookup names with ⟨rfl, isTcp, -⟩ | ⟨rfl, isRdma, -⟩
  · rw [isTcp] at vettable
    obtain ⟨addrSaid, portSaid⟩ := vettable_tcpFields_iff.mp vettable
    obtain ⟨addr, addrSaid⟩ := addrSaid.exists
    obtain ⟨port, portSaid⟩ := portSaid.exists
    refine ⟨.tcp addr port, tagged, ?_⟩
    simp only [describedFields, List.forall_mem_cons]
    exact ⟨addrSaid, portSaid, by simp⟩
  · rw [isRdma] at vettable
    obtain ⟨qpnSaid, lidSaid, gidSaid, psnSaid⟩ := vettable_rdmaFields_iff.mp vettable
    obtain ⟨qpn, qpnSaid⟩ := qpnSaid.exists
    obtain ⟨lid, lidSaid⟩ := lidSaid.exists
    obtain ⟨gid, gidSaid⟩ := gidSaid.exists
    obtain ⟨psn, psnSaid⟩ := psnSaid.exists
    refine ⟨.rdma qpn lid gid psn, tagged, ?_⟩
    simp only [describedFields, List.forall_mem_cons]
    exact ⟨qpnSaid, lidSaid, gidSaid, psnSaid, by simp⟩

/-- Exactly the objects that describe an endpoint are decoded as it. -/
theorem endpoint_eq_ok_iff (deep : 1 < depth)
    (readable : ∀ m ∈ members, m.2.isReadable (depth - 1) = true) :
    endpoint depth (.object (members.map Record.named) .closed) = .ok e ↔
      DescribesEndpoint members e := by
  rw [describesEndpoint_iff]
  constructor
  · intro decoded
    obtain ⟨sketched, sketches⟩ := exists_sketchesEndpoint deep readable decoded
    rw [endpoint_of_sketched deep readable sketches, Record.complete_eq_ok_iff] at decoded
    obtain ⟨complete, rfl⟩ := decoded
    exact ⟨sketches, complete⟩
  · rintro ⟨sketches, complete⟩
    rw [endpoint_of_sketched deep readable sketches, Record.complete_eq_ok_iff]
    exact ⟨complete, rfl⟩

end Decoding

end ControlPlane.Wire
