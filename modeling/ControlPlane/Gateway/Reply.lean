import ControlPlane.Gateway.Plan
import ControlPlane.Http.Message
import ControlPlane.Wire.Page

/-!
# Replies

A reply shows the answer of the one call that an operation makes.  It depends on
nothing but the operation, the answer, and where and when the gateway runs.
-/

namespace ControlPlane.Gateway

open ControlPlane.Http (Response)
open ControlPlane.Json (Value)
open ControlPlane.Time (Instant)

/-- Where a gateway runs and what is attached to it. -/
structure Site where
  coordinatorId : String
  /-- May pages of any origin use the API? -/
  corsPermissive : Bool
  pages : PageDirectory
  startedAt : Instant

/-- The version of the API. -/
def version : String := "0.1.0"

/-- The seconds that have passed in full since the gateway was started, by the one
clock that also dates what happens in the cluster. -/
def Site.uptimeSecs (site : Site) (now : Instant) : Nat :=
  now.fullSecondsSince site.startedAt

/-- A response and what is logged about it. -/
structure Reply where
  response : Response
  log : List LogRecord

namespace Reply

/-- A reply that logs nothing. -/
def plain (status : Nat) (value : Value) : Reply :=
  ⟨.json status value, []⟩

/-- The status of an error, or 500 if that is no status code. -/
def errorStatus (e : Error) : Nat :=
  (Http.statusCode? e.status).getD 500

/-- The value that shows an error. -/
def errorValue (e : Error) : Value :=
  .object [("error", .text e.kind.label), ("message", .text e.message)]

/-- The reply to an operation that failed. -/
def ofError (e : Error) : Reply where
  response := .json (errorStatus e) (errorValue e)
  log := [{ level := .debug, message := "Request rejected"
            fields := [("status", .text (Http.statusText (errorStatus e))),
              ("error", .text e.message)] }]

/-! ## Values of answers -/

/-- The health of the service. -/
def healthValue (active : Bool) : Value :=
  .object [("status", .text "healthy"), ("cluster_active", .bool active),
    ("version", .text version)]

/-- The figures for monitoring. -/
def metricsValue (site : Site) (now : Instant) (m : ClusterMetrics) : Value :=
  .object [("coordinator_id", .text site.coordinatorId),
    ("uptime_secs", .natural (site.uptimeSecs now)),
    ("cluster_name", .text m.clusterName), ("total_nodes", .natural m.totalNodes),
    ("active_nodes", .natural m.activeNodes),
    ("total_memory_mb", .natural m.totalMemoryMb.toNat),
    ("total_vcpus", .natural m.totalVcpus.toNat),
    ("tcp_endpoints", .natural m.tcpEndpoints), ("rdma_endpoints", .natural m.rdmaEndpoints),
    ("remote_fault_rate", .real m.faults.remoteFaultRate),
    ("remote_miss_ratio", .real m.faults.remoteMissRatio),
    ("avg_fault_latency_us", .real m.faults.avgFaultLatencyUs)]

/-- The cluster that is held. -/
def snapshotValue (s : ClusterSnapshot) : Value :=
  .object [("name", .text s.name), ("nodes", .natural s.nodes),
    ("active_nodes", .natural s.activeNodes),
    ("total_memory_mb", .natural s.totalMemoryMb.toNat),
    ("total_vcpus", .natural s.totalVcpus.toNat), ("vm_running", .bool s.vmRunning),
    ("created_at", .text s.createdAt.offsetText)]

/-- A cluster that was created. -/
def createdValue (s : ClusterSummary) : Value :=
  .object [("status", .text "created"), ("cluster_name", .text s.name),
    ("nodes", .natural s.nodes), ("total_memory_mb", .natural s.totalMemoryMb.toNat),
    ("total_vcpus", .natural s.totalVcpus.toNat)]

/-- A cluster that was destroyed. -/
def destroyedValue (d : ClusterDestroyed) : Value :=
  .object [("status", .text "destroyed"), ("cluster_name", .text d.name)]

/-- The members of the cluster. -/
def nodesValue (members : List Member) : Value :=
  .object [("nodes", .array (members.map Wire.memberValue))]

/-- A node that joined. -/
def addedValue (a : NodeAdded) : Value :=
  .object <|
    [("status", .text "joined"), ("node_id", .natural a.nodeId.toNat),
     ("cluster_nodes", .natural a.clusterSize)] ++
    Wire.optionalMember "transport_type" Wire.transportValue a.transport

/-- A node that left. -/
def removedValue (r : NodeRemoved) : Value :=
  .object [("status", .text "removed"), ("node_id", .natural r.nodeId.toNat),
    ("remaining_nodes", .natural r.remaining)]

/-- An endpoint that was registered. -/
def registeredValue (r : EndpointRegistered) : Value :=
  .object [("status", .text "registered"), ("node_id", .natural r.nodeId.toNat),
    ("transport_type", Wire.transportValue r.transport)]

/-- An endpoint with its tier. -/
def entryValue (e : Endpoint) : Value :=
  .object <| Wire.endpointMembers e ++
    [("tier", Wire.tierValue e.tier),
     ("expected_latency_us", .natural e.tier.expectedLatencyUs)]

/-- Every endpoint under the id of its node. -/
def directoryValue (d : EndpointDirectory) : Value :=
  .object [("cluster_name", .text d.clusterName),
    ("endpoints", .object (d.endpoints.entries.map fun (id, e) =>
      (Text.decimalText id.toNat, entryValue e)))]

/-! ## Replies to operations -/

/-- The page of an address, once it is known that a cluster is held. -/
def ofPage (site : Site) (address : String) : Reply :=
  match Address.ofText address with
  | .error e => ofError e
  | .ok a =>
      { response := .json 200 (Wire.pageInfoValue (site.pages a))
        log := [{ level := .debug, message := "Page lookup"
                  fields := [("gpa", .text a.display)] }] }

/-- The reply to an operation that succeeded. -/
def ofAnswer (site : Site) (now : Instant) : (op : Operation) → op.call.Answer → Reply
  | .health, active => plain 200 (healthValue active)
  | .metrics, m => plain 200 (metricsValue site now m)
  | .showCluster, s => plain 200 (snapshotValue s)
  | .createCluster _, s => plain 201 (createdValue s)
  | .destroyCluster, d => plain 200 (destroyedValue d)
  | .listNodes, members => plain 200 (nodesValue members)
  | .addNode _, a => plain 200 (addedValue a)
  | .showNode _, m => plain 200 (Wire.memberValue m)
  | .removeNode _, r => plain 200 (removedValue r)
  | .showEndpoint _, e => plain 200 (Wire.endpointValue e)
  | .registerEndpoint _ _, r => plain 201 (registeredValue r)
  | .listEndpoints, d => plain 200 (directoryValue d)
  | .showPage address, () => ofPage site address

/-- The reply to an operation. -/
def ofResult (site : Site) (now : Instant) (op : Operation) :
    Except Error op.call.Answer → Reply
  | .ok answer => ofAnswer site now op answer
  | .error e => ofError e

end Reply

end ControlPlane.Gateway
