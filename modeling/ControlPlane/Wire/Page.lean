import ControlPlane.Page.Directory
import ControlPlane.Time.Stamp
import ControlPlane.Wire.ClusterRequest

/-!
# Members and pages on the wire

A member of the cluster is shown with the fields of its description and the instant at
which it joined.  A page is shown with its address, in the form that is canonical.
-/

namespace ControlPlane.Wire

open ControlPlane.Json
open ControlPlane.Time (Instant)

/-! ## Members -/

/-- Reads an instant. -/
def instant : Decoder Instant :=
  .textAs "an RFC 3339 formatted date and time string" fun s =>
    match Instant.ofText s with
    | .ok i => .ok i
    | .error fault => .error (.misfit (.wording fault.message))

/-- The fields of a member.  An array has to hold all of them. -/
def memberFields : List Field :=
  [.of "node_id" .uint32, .of "hostname" .text, .of "ip_address" .text,
   .of "rdma_gid" (.nullable .text), .of "cpu_count" .uint32, .of "memory_mb" .uint64,
   .of "status" status, .of "joined_at" instant]

/-- Reads a member. -/
def member : Decoder Member := fun depth d => do
  let kept ← Record.vet "NodeRecord" memberFields depth d
  let depth := depth - 1
  let nodeId ← Record.required kept "node_id" .uint32 depth
  let hostname ← Record.required kept "hostname" .text depth
  let ipAddress ← Record.required kept "ip_address" .text depth
  let rdmaGid ← Record.optional kept "rdma_gid" (.nullable .text) none depth
  let cpuCount ← Record.required kept "cpu_count" .uint32 depth
  let memoryMb ← Record.required kept "memory_mb" .uint64 depth
  let status ← Record.required kept "status" status depth
  let joinedAt ← Record.required kept "joined_at" instant depth
  return { nodeId, hostname, ipAddress, rdmaGid, cpuCount, memoryMb, status, joinedAt }

/-- A member as a value. -/
def memberValue (m : Member) : Value :=
  .object <|
    [("node_id", .natural m.nodeId.toNat), ("hostname", .text m.hostname),
     ("ip_address", .text m.ipAddress)] ++
    optionalMember "rdma_gid" .text m.rdmaGid ++
    [("cpu_count", .natural m.cpuCount.toNat), ("memory_mb", .natural m.memoryMb.toNat),
     ("status", statusValue m.status), ("joined_at", .text m.joinedAt.text)]

/-! ## Pages -/

/-- An address as a value: its shown form. -/
def addressValue (a : Address) : Value :=
  .text a.display

/-- What is known of a page, as a value. -/
def pageInfoValue (p : PageInfo) : Value :=
  .object
    [("gpa", addressValue p.address), ("owner_node", .natural p.ownerNode.toNat),
     ("heat", .natural p.heat.toNat), ("access_count", .natural p.accessCount.toNat),
     ("migration_count", .natural p.migrationCount.toNat)]

end ControlPlane.Wire
