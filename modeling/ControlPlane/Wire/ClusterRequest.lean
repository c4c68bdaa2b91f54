import ControlPlane.Wire.Endpoint

/-!
# Descriptions of nodes and the request for a cluster

A node is described by its fields; one that may be absent is left out of what is
written when it has no value.  A cluster is asked for by its name and the descriptions
of the nodes to begin with, which may be left out.
-/

namespace ControlPlane.Wire

open ControlPlane.Json

/-! ## Statuses -/

/-- The statuses by name. -/
def statuses : List (String × Status) :=
  [.joining, .active, .leaving, .failed].map fun s => (s.name, s)

/-- Reads a status. -/
def status : Decoder Status :=
  .choice statuses

/-- A status as a value. -/
def statusValue (s : Status) : Value :=
  .text s.name

/-! ## Descriptions of nodes -/

/-- The fields of a description of a node.  Those that may be absent may also
be missing at the end of an array. -/
def nodeSpecFields : List Field :=
  [.of "node_id" .uint32, .of "hostname" .text, .of "ip_address" .text,
   (Field.of "rdma_gid" (.nullable .text)).orEnd, .of "cpu_count" .uint32,
   .of "memory_mb" .uint64, (Field.of "status" (.nullable status)).orEnd,
   (Field.of "endpoint" (.nullable endpoint)).orEnd]

/-- Reads a description of a node. -/
def nodeSpec : Decoder NodeSpec := fun depth d => do
  let kept ← Record.vet "NodeSpec" nodeSpecFields depth d
  let depth := depth - 1
  let nodeId ← Record.required kept "node_id" .uint32 depth
  let hostname ← Record.required kept "hostname" .text depth
  let ipAddress ← Record.required kept "ip_address" .text depth
  let rdmaGid ← Record.optional kept "rdma_gid" (.nullable .text) none depth
  let cpuCount ← Record.required kept "cpu_count" .uint32 depth
  let memoryMb ← Record.required kept "memory_mb" .uint64 depth
  let status ← Record.optional kept "status" (.nullable status) none depth
  let endpoint ← Record.optional kept "endpoint" (.nullable endpoint) none depth
  return { nodeId, hostname, ipAddress, rdmaGid, cpuCount, memoryMb, status, endpoint }

/-- A member of an object that is left out if there is no value. -/
def optionalMember (name : String) (value : α → Value) : Option α → List (String × Value)
  | none => []
  | some a => [(name, value a)]

/-- A description of a node as a value. -/
def nodeSpecValue (spec : NodeSpec) : Value :=
  .object <|
    [("node_id", .natural spec.nodeId.toNat), ("hostname", .text spec.hostname),
     ("ip_address", .text spec.ipAddress)] ++
    optionalMember "rdma_gid" .text spec.rdmaGid ++
    [("cpu_count", .natural spec.cpuCount.toNat),
     ("memory_mb", .natural spec.memoryMb.toNat)] ++
    optionalMember "status" statusValue spec.status ++
    optionalMember "endpoint" endpointValue spec.endpoint

/-! ## Requests -/

/-- What a cluster is to be called and which nodes it begins with. -/
structure ClusterRequest where
  name : String
  nodes : List NodeSpec
deriving Repr, DecidableEq

/-- The fields of the request. -/
def clusterRequestFields : List Field :=
  [.of "name" .text, (Field.of "nodes" (.sequence nodeSpec)).orEnd]

/-- Reads the request. -/
def clusterRequest : Decoder ClusterRequest := fun depth d => do
  let kept ← Record.vet "CreateClusterRequest" clusterRequestFields depth d
  let depth := depth - 1
  let name ← Record.required kept "name" .text depth
  let nodes ← Record.optional kept "nodes" (.sequence nodeSpec) [] depth
  return { name, nodes }

end ControlPlane.Wire
