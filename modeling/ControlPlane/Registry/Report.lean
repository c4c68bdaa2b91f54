import ControlPlane.Cluster.Basic
import ControlPlane.Number.Binary64

/-!
# What the registry answers

One structure for each command and for each query that reports figures.
-/

namespace ControlPlane

open ControlPlane.Number (Binary64)

/-- The answer to creating a cluster. -/
structure ClusterSummary where
  name : String
  nodes : Nat
  totalMemoryMb : UInt64
  totalVcpus : UInt64
deriving Repr, DecidableEq

/-- The answer to destroying the cluster. -/
structure ClusterDestroyed where
  name : String
  nodesDropped : Nat
  endpointsDropped : Nat
deriving Repr, DecidableEq

/-- The cluster at one point in time. -/
structure ClusterSnapshot where
  name : String
  nodes : Nat
  activeNodes : Nat
  totalMemoryMb : UInt64
  totalVcpus : UInt64
  /-- Virtual machines are run elsewhere, so this is always false. -/
  vmRunning : Bool
  createdAt : Time.Instant
deriving DecidableEq

/-- The answer to adding a node. -/
structure NodeAdded where
  nodeId : UInt32
  clusterSize : Nat
  /-- The transport of the endpoint that came with the node. -/
  transport : Option Transport
deriving Repr, DecidableEq

/-- The answer to removing a node. -/
structure NodeRemoved where
  nodeId : UInt32
  remaining : Nat
  /-- Did an endpoint go with the node? -/
  endpointPruned : Bool
deriving Repr, DecidableEq

/-- The answer to registering an endpoint. -/
structure EndpointRegistered where
  nodeId : UInt32
  transport : Transport
  /-- The transport of the endpoint that was replaced. -/
  replaced : Option Transport
deriving Repr, DecidableEq

/-- Every registered endpoint. -/
structure EndpointDirectory where
  clusterName : String
  endpoints : IdMap Endpoint

/-- Remote fault statistics, as pager nodes report them. -/
structure FaultStats where
  remoteFaultRate : Binary64
  remoteMissRatio : Binary64
  avgFaultLatencyUs : Binary64
deriving Repr, DecidableEq

/-- The statistics as long as no pager reports any. -/
def FaultStats.none : FaultStats where
  remoteFaultRate := .zero false
  remoteMissRatio := .zero false
  avgFaultLatencyUs := .zero false

/-- The figures for monitoring. -/
structure ClusterMetrics where
  clusterName : String
  totalNodes : Nat
  activeNodes : Nat
  totalMemoryMb : UInt64
  totalVcpus : UInt64
  tcpEndpoints : Nat
  rdmaEndpoints : Nat
  faults : FaultStats
deriving Repr, DecidableEq

namespace Cluster

/-- The summary of a cluster that was just created. -/
def summary (c : Cluster) : ClusterSummary where
  name := c.name
  nodes := c.members.size
  totalMemoryMb := c.totalMemoryMb
  totalVcpus := c.totalVcpus

/-- What is dropped with a cluster. -/
def remains (c : Cluster) : ClusterDestroyed where
  name := c.name
  nodesDropped := c.members.size
  endpointsDropped := c.endpoints.size

/-- The snapshot of a cluster. -/
def snapshot (c : Cluster) : ClusterSnapshot where
  name := c.name
  nodes := c.members.size
  activeNodes := c.activeMembers.length
  totalMemoryMb := c.totalMemoryMb
  totalVcpus := c.totalVcpus
  vmRunning := false
  createdAt := c.createdAt

/-- The endpoints of a cluster. -/
def directory (c : Cluster) : EndpointDirectory where
  clusterName := c.name
  endpoints := c.endpoints

/-- The metrics of a cluster. -/
def metrics (c : Cluster) : ClusterMetrics where
  clusterName := c.name
  totalNodes := c.members.size
  activeNodes := c.activeMembers.length
  totalMemoryMb := c.totalMemoryMb
  totalVcpus := c.totalVcpus
  tcpEndpoints := c.endpointCount .tcp
  rdmaEndpoints := c.endpointCount .rdma
  faults := .none

end Cluster

end ControlPlane
