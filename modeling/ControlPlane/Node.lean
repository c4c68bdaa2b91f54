import ControlPlane.Text.Basic
import ControlPlane.Time.Instant

/-!
# Nodes

A node announces itself before it serves memory and is drained before it leaves.  The
control plane stores the status a node was added with; who changes it is decided
elsewhere.  Peers fetch pages at the endpoint of a node: the address of a socket, or the
queue pair of a reliable connection, with the fields of its own transport and no others.

A `NodeSpec` is what is known of a node when it is to join.  Enrolling it at an instant
gives the `Member` that the cluster keeps.
-/

namespace ControlPlane

/-! ## Statuses -/

/-- The lifecycle state of a cluster member. -/
inductive Status
  /-- Announced, but not yet serving memory. -/
  | joining
  /-- Contributes memory and processors to the cluster. -/
  | active
  /-- Draining before removal. -/
  | leaving
  /-- Unreachable or crashed. -/
  | failed
deriving Repr, DecidableEq

namespace Status

/-- The name of a status on the wire and in logs. -/
def name : Status → String
  | joining => "joining"
  | active => "active"
  | leaving => "leaving"
  | failed => "failed"

/-- The status of a node that announces none. -/
def initial : Status :=
  joining

end Status

/-! ## Transports and their tiers -/

/-- How a peer reaches a node to fetch pages it owns. -/
inductive Transport
  | tcp
  | rdma
deriving Repr, DecidableEq

/-- A class of expected remote page fault latency. -/
inductive Tier
  /-- Below 100 µs: RDMA over InfiniBand. -/
  | highPerformance
  /-- From 100 to 300 µs: RDMA over converged Ethernet. -/
  | mediumPerformance
  /-- From 200 to 500 µs: TCP over fast Ethernet. -/
  | standard
  /-- Above 500 µs: TCP over slow Ethernet. -/
  | basic
deriving Repr, DecidableEq

namespace Tier

/-- The name of a tier on the wire. -/
def name : Tier → String
  | highPerformance => "high_performance"
  | mediumPerformance => "medium_performance"
  | standard => "standard"
  | basic => "basic"

/-- The latency to expect, in microseconds. -/
def expectedLatencyUs : Tier → Nat
  | highPerformance => 50
  | mediumPerformance => 150
  | standard => 350
  | basic => 1000

end Tier

namespace Transport

/-- The name of a transport on the wire. -/
def name : Transport → String
  | tcp => "tcp"
  | rdma => "rdma"

/-- The name of a transport in the log of joining nodes. -/
def title : Transport → String
  | tcp => "Tcp"
  | rdma => "Rdma"

/-- The nominal tier of a transport. -/
def tier : Transport → Tier
  | rdma => .highPerformance
  | tcp => .standard

end Transport

/-! ## Endpoints -/

/-- Where a node serves pages. -/
inductive Endpoint
  /-- A plain socket. -/
  | tcp (addr : String) (port : UInt16)
  /-- A reliably connected queue pair. -/
  | rdma (qpn : UInt32) (lid : UInt16) (gid : String) (psn : UInt32)
deriving Repr, DecidableEq

namespace Endpoint

/-- The transport of an endpoint. -/
def transport : Endpoint → Transport
  | tcp .. => .tcp
  | rdma .. => .rdma

/-- The tier of an endpoint. -/
def tier (e : Endpoint) : Tier :=
  e.transport.tier

/-- An endpoint as one line of text. -/
def display : Endpoint → String
  | tcp addr port => "tcp://" ++ addr ++ ":" ++ Text.decimalText port.toNat
  | rdma qpn lid gid psn =>
      "rdma://" ++ gid ++ " qpn=" ++ Text.decimalText qpn.toNat ++
        " lid=" ++ Text.decimalText lid.toNat ++ " psn=" ++ Text.decimalText psn.toNat

end Endpoint

/-! ## Before and after a node joins -/

/-- The description of a node that is to join. -/
structure NodeSpec where
  nodeId : UInt32
  hostname : String
  ipAddress : String
  /-- The RDMA group identifier advertised at join time; descriptive only. -/
  rdmaGid : Option String
  cpuCount : UInt32
  memoryMb : UInt64
  /-- The status to start with, `Status.initial` if none is given. -/
  status : Option Status
  /-- The endpoint to register together with the node. -/
  endpoint : Option Endpoint
deriving Repr, DecidableEq

/-- What is known of a member of the cluster. -/
structure Member where
  nodeId : UInt32
  hostname : String
  ipAddress : String
  rdmaGid : Option String
  cpuCount : UInt32
  memoryMb : UInt64
  status : Status
  joinedAt : Time.Instant
deriving DecidableEq

namespace NodeSpec

/-- The member that a node becomes when it joins at `now`. -/
def enroll (spec : NodeSpec) (now : Time.Instant) : Member where
  nodeId := spec.nodeId
  hostname := spec.hostname
  ipAddress := spec.ipAddress
  rdmaGid := spec.rdmaGid
  cpuCount := spec.cpuCount
  memoryMb := spec.memoryMb
  status := spec.status.getD .initial
  joinedAt := now

@[simp]
theorem nodeId_enroll (spec : NodeSpec) (now : Time.Instant) :
    (spec.enroll now).nodeId = spec.nodeId :=
  rfl

end NodeSpec

namespace Member

/-- Only active members count toward the capacity of the cluster. -/
def isActive (m : Member) : Bool :=
  m.status = .active

end Member

end ControlPlane
