import ControlPlane.Cluster.IdMap
import ControlPlane.Node

/-!
# The cluster

A cluster has a name, its members and their endpoints, in two tables keyed by
node ids.  The three operations that change it keep the tables in step if they
are called as the registry calls them: a node joins under an id that is free,
and an endpoint is set for a member.
-/

namespace ControlPlane

/-- A cluster: members and their endpoints. -/
structure Cluster where
  name : String
  createdAt : Time.Instant
  members : IdMap Member
  endpoints : IdMap Endpoint

namespace Cluster

/-- A cluster without members. -/
def new (name : String) (createdAt : Time.Instant) : Cluster where
  name
  createdAt
  members := .empty
  endpoints := .empty

/-- Is there a member with this id? -/
def hasMember (c : Cluster) (id : UInt32) : Bool :=
  c.members.contains id

/-- Sets the endpoint of a node. -/
def setEndpoint (c : Cluster) (id : UInt32) (e : Endpoint) : Cluster :=
  { c with endpoints := c.endpoints.insert id e }

/-- Adds a member under its own id, with its endpoint if it has one. -/
def join (c : Cluster) (m : Member) (e : Option Endpoint) : Cluster :=
  let joined := { c with members := c.members.insert m.nodeId m }
  match e with
  | none => joined
  | some e => joined.setEndpoint m.nodeId e

/-- Enrolls a node at `now`. -/
def enroll (now : Time.Instant) (c : Cluster) (spec : NodeSpec) : Cluster :=
  c.join (spec.enroll now) spec.endpoint

/-- Removes a member together with its endpoint. -/
def leave (c : Cluster) (id : UInt32) : Cluster :=
  { c with members := c.members.erase id, endpoints := c.endpoints.erase id }

/-! ## Figures -/

/-- The members that count toward the capacity, in the order of their ids. -/
def activeMembers (c : Cluster) : List Member :=
  c.members.values.filter Member.isActive

/-- The sum of an amount over members. -/
def total (amount : Member → UInt64) : List Member → UInt64
  | [] => 0
  | m :: rest => amount m + total amount rest

/-- The memory of the active members. -/
def totalMemoryMb (c : Cluster) : UInt64 :=
  total (·.memoryMb) c.activeMembers

/-- The processors of the active members. -/
def totalVcpus (c : Cluster) : UInt64 :=
  total (·.cpuCount.toUInt64) c.activeMembers

/-- The number of endpoints of a transport. -/
def endpointCount (c : Cluster) (t : Transport) : Nat :=
  c.endpoints.values.countP (·.transport = t)

end Cluster

end ControlPlane
