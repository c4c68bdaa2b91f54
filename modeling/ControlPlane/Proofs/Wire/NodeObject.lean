import ControlPlane.Proofs.Json.ObjectText
import ControlPlane.Proofs.Json.Occurrence
import ControlPlane.Wire.ClusterRequest

/-!
# Which objects are nodes and requests for clusters

An object describes a node if it says each required field once, with a value of its
type, and each optional field at most once, with `null` or a value of its type.  A
request for a cluster says its name once and the nodes to begin with at most once.
Neither the order of the members matters nor what the object says of other names.
-/

namespace ControlPlane.Wire

open ControlPlane.Json

/-! ## Statuses -/

theorem lookup_statuses {name : String} {s : Status} :
    statuses.lookup name = some s ↔ name = s.name := by
  constructor
  · intro found
    obtain ⟨before, after, split, -⟩ := List.lookup_eq_some_iff.mp found
    have listed : (name, s) ∈ statuses := by
      rw [split]
      exact List.mem_append_right before List.mem_cons_self
    obtain ⟨other, -, same⟩ := List.mem_map.mp listed
    cases same
    rfl
  · rintro rfl
    cases s <;> rfl

/-- A status is written as its name, or as an object with the name as its only member
and `null` as the value. -/
def IsStatus (d : Draft) (s : Status) : Prop :=
  d = .text (some s.name) ∨ d = .object [(some s.name, .null)] .closed

theorem status_eq_ok_iff {depth : Nat} (deep : 1 < depth) {d : Draft} {s : Status} :
    status depth d = .ok s ↔ IsStatus d s := by
  rw [status, Decoder.choice_eq_ok_iff]
  simp [lookup_statuses, IsStatus, deep]

/-! ## Nodes -/

/-- The fields that every node has, and what their values have to be. -/
def requiredFields (spec : NodeSpec) : List (String × (Draft → Prop)) :=
  [("node_id", fun d => d.IsLiteral spec.nodeId.toNat),
   ("hostname", fun d => d = .text (some spec.hostname)),
   ("ip_address", fun d => d = .text (some spec.ipAddress)),
   ("cpu_count", fun d => d.IsLiteral spec.cpuCount.toNat),
   ("memory_mb", fun d => d.IsLiteral spec.memoryMb.toNat)]

/-- What the object says of the fields that a node may do without. -/
structure OptionalFields (depth : Nat) (members : List (String × Draft)) (spec : NodeSpec) :
    Prop where
  rdmaGid : Optionally members "rdma_gid" (fun d gid => d = .text (some gid)) spec.rdmaGid
  status : Optionally members "status" IsStatus spec.status
  /-- The endpoint is one that is accepted where it stands, below the object. -/
  endpoint : Optionally members "endpoint" (fun d e => endpoint depth d = .ok e) spec.endpoint

/-- The object says every required field of a node once, and the optional ones. -/
def DescribesNode (depth : Nat) (members : List (String × Draft)) (spec : NodeSpec) : Prop :=
  (∀ f ∈ requiredFields spec, Once members f.1 f.2) ∧ OptionalFields depth members spec

/-- The object describes a node except that required fields may be absent. -/
def SketchesNode (depth : Nat) (members : List (String × Draft)) (spec : NodeSpec) : Prop :=
  (∀ f ∈ requiredFields spec, AtMostOnce members f.1 f.2) ∧ OptionalFields depth members spec

/-- The names of the required fields, in the order of declaration. -/
def requiredNames : List String :=
  ["node_id", "hostname", "ip_address", "cpu_count", "memory_mb"]

theorem map_fst_requiredFields (spec : NodeSpec) :
    (requiredFields spec).map Prod.fst = requiredNames :=
  rfl

theorem describesNode_iff {depth : Nat} {members : List (String × Draft)} {spec : NodeSpec} :
    DescribesNode depth members spec ↔
      SketchesNode depth members spec ∧ firstAbsent? members requiredNames = none := by
  rw [DescribesNode, SketchesNode, forall_once_iff, map_fst_requiredFields, and_right_comm]

section Nodes

variable {members : List (String × Draft)} {depth : Nat}

theorem vettable_nodeSpecFields_iff :
    Record.Vettable nodeSpecFields depth [] members ↔
      AtMostOnce members "node_id" (fun d => ∃ id : UInt32, d.IsLiteral id.toNat) ∧
      AtMostOnce members "hostname" (fun d => ∃ name, d = .text (some name)) ∧
      AtMostOnce members "ip_address" (fun d => ∃ address, d = .text (some address)) ∧
      AtMostOnce members "rdma_gid" (fun d => ∃ o, Decoder.nullable .text depth d = .ok o) ∧
      AtMostOnce members "cpu_count" (fun d => ∃ cpus : UInt32, d.IsLiteral cpus.toNat) ∧
      AtMostOnce members "memory_mb" (fun d => ∃ memory : UInt64, d.IsLiteral memory.toNat) ∧
      AtMostOnce members "status" (fun d => ∃ o, Decoder.nullable status depth d = .ok o) ∧
      AtMostOnce members "endpoint"
        (fun d => ∃ o, Decoder.nullable endpoint depth d = .ok o) := by
  have distinct : (nodeSpecFields.map Field.name).Nodup := by decide
  rw [Record.vettable_iff_of_distinct distinct]
  simp only [nodeSpecFields, List.forall_mem_cons, Field.orEnd, Record.check_of_eq_ok_iff,
    Decoder.text_eq_ok_iff, Decoder.uint32_eq_ok_iff, Decoder.uint64_eq_ok_iff]
  simp [Field.of]

theorem text_ne_null (s : String) : ¬ (Draft.null = .text (some s)) := by
  intro same
  cases same

theorem not_isStatus_null (s : Status) : ¬ IsStatus .null s := by
  rintro (same | same) <;> cases same

theorem endpoint_null_ne (e : Endpoint) : ¬ endpoint depth .null = .ok e := by
  intro decoded
  cases decoded

/-- What sketches a node is vettable. -/
theorem SketchesNode.vettable {spec : NodeSpec} (deep : 1 < depth)
    (sketches : SketchesNode depth members spec) :
    Record.Vettable nodeSpecFields depth [] members := by
  obtain ⟨said, optional⟩ := sketches
  simp only [requiredFields, List.forall_mem_cons] at said
  obtain ⟨id, hostname, address, cpus, memory, -⟩ := said
  rw [vettable_nodeSpecFields_iff]
  refine ⟨id.imp fun d value => ⟨_, value⟩, hostname.imp fun d value => ⟨_, value⟩,
    address.imp fun d value => ⟨_, value⟩, ?gid, cpus.imp fun d value => ⟨_, value⟩,
    memory.imp fun d value => ⟨_, value⟩, ?status, ?endpoint⟩
  case gid =>
    exact Record.atMostOnce_of_optionally (fun _ _ => Decoder.text_eq_ok_iff) text_ne_null
      optional.rdmaGid
  case status =>
    exact Record.atMostOnce_of_optionally (fun _ _ => status_eq_ok_iff deep) not_isStatus_null
      optional.status
  case endpoint =>
    exact Record.atMostOnce_of_optionally (fun _ _ => Iff.rfl) endpoint_null_ne
      optional.endpoint

/-- What is vettable sketches some node. -/
theorem exists_sketchesNode (deep : 1 < depth)
    (vettable : Record.Vettable nodeSpecFields depth [] members) :
    ∃ spec, SketchesNode depth members spec := by
  rw [vettable_nodeSpecFields_iff] at vettable
  obtain ⟨id, hostname, address, gid, cpus, memory, status, endpoint⟩ := vettable
  obtain ⟨nodeId, id⟩ := id.exists
  obtain ⟨name, hostname⟩ := hostname.exists
  obtain ⟨ipAddress, address⟩ := address.exists
  obtain ⟨rdmaGid, gid⟩ := Record.exists_optionally (fun _ _ => Decoder.text_eq_ok_iff) gid
  obtain ⟨cpuCount, cpus⟩ := cpus.exists
  obtain ⟨memoryMb, memory⟩ := memory.exists
  obtain ⟨status, statusSaid⟩ :=
    Record.exists_optionally (fun _ _ => status_eq_ok_iff deep) status
  obtain ⟨endpoint, endpointSaid⟩ := Record.exists_optionally (fun _ _ => Iff.rfl) endpoint
  refine ⟨⟨nodeId, name, ipAddress, rdmaGid, cpuCount, memoryMb, status, endpoint⟩, ?_,
    gid, statusSaid, endpointSaid⟩
  simp only [requiredFields, List.forall_mem_cons]
  exact ⟨id, hostname, address, cpus, memory, by simp⟩

variable {spec : NodeSpec}

/-- An object that sketches a node is that node, or it is refused because of the first
required field that is absent. -/
theorem nodeSpec_of_sketched (deep : 2 < depth) (values : ∀ m ∈ members, m.2.isValue = true)
    (sketches : SketchesNode (depth - 1) members spec) :
    nodeSpec depth (.object (members.map Record.named) .closed) =
      Record.complete members requiredNames spec := by
  have inner : 1 < depth - 1 := by omega
  have vetted : Record.vet "NodeSpec" nodeSpecFields depth
      (.object (members.map Record.named) .closed) =
        .ok (members.filter (Record.isField nodeSpecFields)) :=
    (Record.vet_object_eq_ok_iff (Nat.lt_of_succ_lt deep) values).mpr
      ⟨sketches.vettable inner, rfl⟩
  obtain ⟨said, optional⟩ := sketches
  simp only [requiredFields, List.forall_mem_cons] at said
  obtain ⟨id, hostname, address, cpus, memory, -⟩ := said
  have gidRead : Record.optional (members.filter (Record.isField nodeSpecFields)) "rdma_gid"
      (.nullable .text) none (depth - 1) = .ok spec.rdmaGid :=
    Record.optional_of_optionally rfl (fun _ _ => Decoder.text_eq_ok_iff) text_ne_null
      optional.rdmaGid
  have statusRead : Record.optional (members.filter (Record.isField nodeSpecFields)) "status"
      (.nullable status) none (depth - 1) = .ok spec.status :=
    Record.optional_of_optionally rfl (fun _ _ => status_eq_ok_iff inner) not_isStatus_null
      optional.status
  have endpointRead : Record.optional (members.filter (Record.isField nodeSpecFields))
      "endpoint" (.nullable endpoint) none (depth - 1) = .ok spec.endpoint :=
    Record.optional_of_optionally rfl (fun _ _ => Iff.rfl) endpoint_null_ne optional.endpoint
  rw [nodeSpec, vetted]
  change (do
    let nodeId ← Record.required _ "node_id" .uint32 (depth - 1)
    _) = _
  rw [Record.required_eq_demand rfl (id.imp fun d => Decoder.uint32_eq_ok_iff.mpr),
    Record.required_eq_demand rfl (hostname.imp fun d => Decoder.text_eq_ok_iff.mpr),
    Record.required_eq_demand rfl (address.imp fun d => Decoder.text_eq_ok_iff.mpr),
    Record.required_eq_demand rfl (cpus.imp fun d => Decoder.uint32_eq_ok_iff.mpr),
    Record.required_eq_demand rfl (memory.imp fun d => Decoder.uint64_eq_ok_iff.mpr),
    gidRead, statusRead, endpointRead]
  exact Record.bind_demand (Record.bind_demand (Record.bind_demand (Record.bind_demand
    (Record.bind_demand rfl))))

/-- Exactly the objects that describe a node are decoded as it. -/
theorem nodeSpec_eq_ok_iff (deep : 2 < depth) (values : ∀ m ∈ members, m.2.isValue = true) :
    nodeSpec depth (.object (members.map Record.named) .closed) = .ok spec ↔
      DescribesNode (depth - 1) members spec := by
  have inner : 1 < depth - 1 := by omega
  rw [describesNode_iff]
  constructor
  · intro decoded
    cases vetted : Record.vet "NodeSpec" nodeSpecFields depth
        (.object (members.map Record.named) .closed) with
    | error refusal =>
        rw [nodeSpec, vetted] at decoded
        cases decoded
    | ok kept =>
        have vettable :=
          ((Record.vet_object_eq_ok_iff (Nat.lt_of_succ_lt deep) values).mp vetted).1
        obtain ⟨sketched, sketches⟩ := exists_sketchesNode inner vettable
        rw [nodeSpec_of_sketched deep values sketches, Record.complete_eq_ok_iff] at decoded
        obtain ⟨complete, rfl⟩ := decoded
        exact ⟨sketches, complete⟩
  · rintro ⟨sketches, complete⟩
    rw [nodeSpec_of_sketched deep values sketches, Record.complete_eq_ok_iff]
    exact ⟨complete, rfl⟩

/-- Only the members that are fields count, and not their order. -/
theorem DescribesNode.of_alike {others : List (String × Draft)}
    (describes : DescribesNode depth members spec)
    (alike : (members.filter (Record.isField nodeSpecFields)).Perm
      (others.filter (Record.isField nodeSpecFields))) :
    DescribesNode depth others spec := by
  have same {name : String} (known : (Record.field? nodeSpecFields name).isSome = true) :
      (valuesOf members name).Perm (valuesOf others name) :=
    Record.perm_valuesOf_of_fields known alike
  have known : ∀ f ∈ requiredFields spec, (Record.field? nodeSpecFields f.1).isSome = true := by
    simp only [requiredFields, List.forall_mem_cons]
    exact ⟨rfl, rfl, rfl, rfl, rfl, by simp⟩
  obtain ⟨required, gid, status, endpoint⟩ := describes
  refine ⟨?_, ?_, ?_, ?_⟩
  · exact fun f fMem => (once_congr (same (known f fMem))).mp (required f fMem)
  · exact (optionally_congr (same rfl)).mp gid
  · exact (optionally_congr (same rfl)).mp status
  · exact (optionally_congr (same rfl)).mp endpoint

end Nodes

/-! ## Requests for clusters -/

/-- What the object says of the nodes to begin with: nothing if there are none, or an
array of nodes that are accepted where they stand. -/
def SaysNodes (depth : Nat) (members : List (String × Draft)) (nodes : List NodeSpec) : Prop :=
  (valuesOf members "nodes" = [] ∧ nodes = []) ∨
    Once members "nodes" fun d => ∃ items, d = .array items true ∧
      List.Forall₂ (fun item spec => nodeSpec (depth - 1) item = .ok spec) items nodes

/-- The object says the name of a cluster once, and the nodes to begin with. -/
def DescribesCluster (depth : Nat) (members : List (String × Draft))
    (request : ClusterRequest) : Prop :=
  Once members "name" (fun d => d = .text (some request.name)) ∧
    SaysNodes depth members request.nodes

/-- The object describes a cluster except that the name may be absent. -/
def SketchesCluster (depth : Nat) (members : List (String × Draft))
    (request : ClusterRequest) : Prop :=
  AtMostOnce members "name" (fun d => d = .text (some request.name)) ∧
    SaysNodes depth members request.nodes

theorem describesCluster_iff {depth : Nat} {members : List (String × Draft)}
    {request : ClusterRequest} :
    DescribesCluster depth members request ↔
      SketchesCluster depth members request ∧ firstAbsent? members ["name"] = none := by
  rw [DescribesCluster, SketchesCluster, once_iff_atMostOnce, firstAbsent?_eq_none_iff,
    List.forall_mem_singleton, and_right_comm]

section Clusters

variable {members : List (String × Draft)} {depth : Nat}

theorem vettable_clusterRequestFields_iff :
    Record.Vettable clusterRequestFields depth [] members ↔
      AtMostOnce members "name" (fun d => ∃ name, d = .text (some name)) ∧
      AtMostOnce members "nodes"
        (fun d => ∃ nodes, Decoder.sequence nodeSpec depth d = .ok nodes) := by
  have distinct : (clusterRequestFields.map Field.name).Nodup := by decide
  rw [Record.vettable_iff_of_distinct distinct]
  simp only [clusterRequestFields, List.forall_mem_cons, Field.orEnd, Record.check_of_eq_ok_iff,
    Decoder.text_eq_ok_iff]
  simp [Field.of]

/-- What sketches a cluster is vettable. -/
theorem SketchesCluster.vettable {request : ClusterRequest} (deep : 1 < depth)
    (sketches : SketchesCluster depth members request) :
    Record.Vettable clusterRequestFields depth [] members := by
  obtain ⟨name, nodes⟩ := sketches
  rw [vettable_clusterRequestFields_iff]
  refine ⟨name.imp fun d value => ⟨_, value⟩, ?_⟩
  rcases nodes with ⟨absent, -⟩ | ⟨d, once, listed⟩
  · exact .inl absent
  · exact .inr ⟨d, once, _, (Decoder.sequence_eq_ok_iff deep).mpr listed⟩

/-- What is vettable sketches some cluster. -/
theorem exists_sketchesCluster (deep : 1 < depth)
    (vettable : Record.Vettable clusterRequestFields depth [] members) :
    ∃ request, SketchesCluster depth members request := by
  rw [vettable_clusterRequestFields_iff] at vettable
  obtain ⟨nameSaid, nodesSaid⟩ := vettable
  obtain ⟨name, nameSaid⟩ := nameSaid.exists
  rcases nodesSaid with absent | ⟨d, once, nodes, read⟩
  · exact ⟨⟨name, []⟩, nameSaid, .inl ⟨absent, rfl⟩⟩
  · exact ⟨⟨name, nodes⟩, nameSaid,
      .inr ⟨d, once, (Decoder.sequence_eq_ok_iff deep).mp read⟩⟩

variable {request : ClusterRequest}

/-- An object that sketches a cluster is the request for it, or it is refused because
the name is absent. -/
theorem clusterRequest_of_sketched (deep : 2 < depth)
    (values : ∀ m ∈ members, m.2.isValue = true)
    (sketches : SketchesCluster (depth - 1) members request) :
    clusterRequest depth (.object (members.map Record.named) .closed) =
      Record.complete members ["name"] request := by
  have inner : 1 < depth - 1 := by omega
  have vetted : Record.vet "CreateClusterRequest" clusterRequestFields depth
      (.object (members.map Record.named) .closed) =
        .ok (members.filter (Record.isField clusterRequestFields)) :=
    (Record.vet_object_eq_ok_iff (Nat.lt_of_succ_lt deep) values).mpr
      ⟨sketches.vettable inner, rfl⟩
  obtain ⟨name, nodes⟩ := sketches
  have nodesRead : Record.optional (members.filter (Record.isField clusterRequestFields))
      "nodes" (.sequence nodeSpec) [] (depth - 1) = .ok request.nodes := by
    rcases nodes with ⟨absent, none⟩ | ⟨d, once, listed⟩
    · rw [none]
      exact Record.optional_of_absent rfl absent _ _ _
    · exact Record.optional_of_once rfl
        ⟨d, once, (Decoder.sequence_eq_ok_iff inner).mpr listed⟩ []
  rw [clusterRequest, vetted]
  change (do
    let name ← Record.required _ "name" .text (depth - 1)
    _) = _
  rw [Record.required_eq_demand rfl (name.imp fun d => Decoder.text_eq_ok_iff.mpr), nodesRead]
  exact Record.bind_demand rfl

/-- Exactly the objects that describe a cluster are decoded as the request for it. -/
theorem clusterRequest_eq_ok_iff (deep : 2 < depth)
    (values : ∀ m ∈ members, m.2.isValue = true) :
    clusterRequest depth (.object (members.map Record.named) .closed) = .ok request ↔
      DescribesCluster (depth - 1) members request := by
  have inner : 1 < depth - 1 := by omega
  rw [describesCluster_iff]
  constructor
  · intro decoded
    cases vetted : Record.vet "CreateClusterRequest" clusterRequestFields depth
        (.object (members.map Record.named) .closed) with
    | error refusal =>
        rw [clusterRequest, vetted] at decoded
        cases decoded
    | ok kept =>
        have vettable :=
          ((Record.vet_object_eq_ok_iff (Nat.lt_of_succ_lt deep) values).mp vetted).1
        obtain ⟨sketched, sketches⟩ := exists_sketchesCluster inner vettable
        rw [clusterRequest_of_sketched deep values sketches, Record.complete_eq_ok_iff] at decoded
        obtain ⟨complete, rfl⟩ := decoded
        exact ⟨sketches, complete⟩
  · rintro ⟨sketches, complete⟩
    rw [clusterRequest_of_sketched deep values sketches, Record.complete_eq_ok_iff]
    exact ⟨complete, rfl⟩

/-- Only the members that are fields count, and not their order. -/
theorem DescribesCluster.of_alike {others : List (String × Draft)}
    (describes : DescribesCluster depth members request)
    (alike : (members.filter (Record.isField clusterRequestFields)).Perm
      (others.filter (Record.isField clusterRequestFields))) :
    DescribesCluster depth others request := by
  have same {name : String} (known : (Record.field? clusterRequestFields name).isSome = true) :
      (valuesOf members name).Perm (valuesOf others name) :=
    Record.perm_valuesOf_of_fields known alike
  obtain ⟨name, ⟨absent, none⟩ | nodes⟩ := describes
  · have nodesSame := same (rfl : (Record.field? clusterRequestFields "nodes").isSome = true)
    rw [absent] at nodesSame
    exact ⟨(once_congr (same rfl)).mp name, .inl ⟨List.nil_perm.mp nodesSame, none⟩⟩
  · exact ⟨(once_congr (same rfl)).mp name, .inr ((once_congr (same rfl)).mp nodes)⟩

end Clusters

/-! ## Texts -/

/-- The text of an object is a description of a node exactly if it says every required
field once and the optional ones at most once, all with values of their types, and then
it is the description with these values.  If nothing is wrong but that required fields
are absent, the refusal is about the first of them.  Neither the order of the members
nor those that are no fields make a difference.  Requests for clusters are alike, with
the name as the only required field. -/
theorem object_texts_are_descriptions {s : String} {members : List (String × Draft)}
    (object : IsObjectText s members) :
    (∀ spec, Decoder.ofText nodeSpec s = .ok spec ↔
      DescribesNode (depthLimit - 1) members spec) ∧
    (∀ spec name, SketchesNode (depthLimit - 1) members spec →
      firstAbsent? members requiredNames = some name →
      Decoder.ofText nodeSpec s = .error (.misfit (.missing name))) ∧
    (∀ other others, IsObjectText other others →
      (members.filter (Record.isField nodeSpecFields)).Perm
        (others.filter (Record.isField nodeSpecFields)) →
      ∀ spec, Decoder.ofText nodeSpec s = .ok spec ↔ Decoder.ofText nodeSpec other = .ok spec) ∧
    (∀ request, Decoder.ofText clusterRequest s = .ok request ↔
      DescribesCluster (depthLimit - 1) members request) ∧
    (∀ request, SketchesCluster (depthLimit - 1) members request →
      firstAbsent? members ["name"] = some "name" →
      Decoder.ofText clusterRequest s = .error (.misfit (.missing "name"))) ∧
    (∀ other others, IsObjectText other others →
      (members.filter (Record.isField clusterRequestFields)).Perm
        (others.filter (Record.isField clusterRequestFields)) →
      ∀ request, Decoder.ofText clusterRequest s = .ok request ↔
        Decoder.ofText clusterRequest other = .ok request) := by
  have deep : 2 < depthLimit := by decide
  have nodeRead {s : String} {members : List (String × Draft)} (object : IsObjectText s members)
      (spec : NodeSpec) : Decoder.ofText nodeSpec s = .ok spec ↔
        DescribesNode (depthLimit - 1) members spec := by
    rw [object.ofText_eq]
    exact nodeSpec_eq_ok_iff deep object.isValue_of_mem
  have clusterRead {s : String} {members : List (String × Draft)}
      (object : IsObjectText s members) (request : ClusterRequest) :
      Decoder.ofText clusterRequest s = .ok request ↔
        DescribesCluster (depthLimit - 1) members request := by
    rw [object.ofText_eq]
    exact clusterRequest_eq_ok_iff deep object.isValue_of_mem
  refine ⟨nodeRead object, ?_, ?_, clusterRead object, ?_, ?_⟩
  · intro spec name sketches absent
    rw [object.ofText_eq, nodeSpec_of_sketched deep object.isValue_of_mem sketches,
      Record.complete, absent]
  · intro other others otherObject alike spec
    rw [nodeRead object, nodeRead otherObject]
    exact ⟨fun describes => describes.of_alike alike,
      fun describes => describes.of_alike alike.symm⟩
  · intro request sketches absent
    rw [object.ofText_eq, clusterRequest_of_sketched deep object.isValue_of_mem sketches,
      Record.complete, absent]
  · intro other others otherObject alike request
    rw [clusterRead object, clusterRead otherObject]
    exact ⟨fun describes => describes.of_alike alike,
      fun describes => describes.of_alike alike.symm⟩

/-- A description with its fields in reverse order and members that are no fields. -/
def reversedNode : String :=
  "\x7b\"endpoint\":null,\"memory_mb\":64,\"extra\":[[1e999]],\"cpu_count\":8," ++
    "\"ip_address\":\"\",\"hostname\":\"n\",\"extra\":-0.0,\"node_id\":7\x7d"

/-- What it says. -/
def reversedMembers : List (String × Draft) :=
  [("endpoint", .null), ("memory_mb", .number (.ofNat 64)),
   ("extra", .array [.array [.number ⟨false, [1], none, some (false, [9, 9, 9])⟩] true] true),
   ("cpu_count", .number (.ofNat 8)), ("ip_address", .text (some "")),
   ("hostname", .text (some "n")), ("extra", .number ⟨true, [0], some [0], none⟩),
   ("node_id", .number (.ofNat 7))]

/-- The text is a description of a node; as a request for a cluster it lacks the name. -/
theorem reversedNode_is_description :
    Decoder.ofText nodeSpec reversedNode = .ok ⟨7, "n", "", none, 8, 64, none, none⟩ ∧
    Decoder.ofText clusterRequest reversedNode = .error (.misfit (.missing "name")) := by
  have object : IsObjectText reversedNode reversedMembers := by
    rw [IsObjectText]
    set_option maxRecDepth 4000 in rfl
  obtain ⟨nodeRead, -, -, -, clusterRefused, -⟩ := object_texts_are_descriptions object
  constructor
  · rw [nodeRead]
    refine ⟨?_, .inl rfl, .inl rfl, .inr rfl⟩
    simp only [requiredFields, List.forall_mem_cons]
    exact ⟨⟨_, rfl, [7], rfl, rfl⟩, ⟨_, rfl, rfl⟩, ⟨_, rfl, rfl⟩, ⟨_, rfl, [8], rfl, rfl⟩,
      ⟨_, rfl, [6, 4], rfl, rfl⟩, by simp⟩
  · exact clusterRefused ⟨"", []⟩ ⟨.inl rfl, .inl ⟨rfl, rfl⟩⟩ rfl

end ControlPlane.Wire
