import ControlPlane.Error
import ControlPlane.Registry.Event
import ControlPlane.Registry.Report

/-!
# The registry

The registry holds at most one cluster.  A command gives an answer or an error,
the registry afterwards, and the events that it logs; a query gives an answer or
an error.  A command that fails leaves the registry as it was.
-/

namespace ControlPlane

open ControlPlane.Time (Instant)

/-- The registry: the cluster that is held, if there is one. -/
structure Registry where
  held : Option Cluster

/-- What a command leads to. -/
structure Outcome (α : Type) where
  answer : Except Error α
  registry : Registry
  events : List Event

/-- The first id of a list that occurred before it, given the ids that came
before the list. -/
def firstRepeated (seen : List UInt32) : List UInt32 → Option UInt32
  | [] => none
  | id :: rest => if id ∈ seen then some id else firstRepeated (id :: seen) rest

namespace Registry

/-- The registry that holds nothing. -/
def empty : Registry :=
  ⟨none⟩

/-- The cluster that is held, or the error that there is none. -/
def require (r : Registry) : Except Error Cluster :=
  match r.held with
  | some c => .ok c
  | none => .error .clusterNotFound

/-- A command that is refused. -/
def refuse (r : Registry) (error : Error) (events : List Event) : Outcome α :=
  ⟨.error error, r, events⟩

/-! ## Commands -/

/-- The event of a node that joins when its cluster is created. -/
def founderEvent (cluster : String) (m : Member) : Event :=
  .founderJoined cluster m.nodeId m.hostname m.status

/-- Creates a cluster with nodes in it.  One repeated id refuses the whole batch.
One instant dates the cluster and the members that it begins with; a clock that is
read for each of the two dates the members a moment later. -/
def create (now : Instant) (name : String) (nodes : List NodeSpec) (r : Registry) :
    Outcome ClusterSummary :=
  match r.held with
  | some c => r.refuse (.alreadyExists c.name) [.createRefusedHeld name c.name]
  | none =>
      match firstRepeated [] (nodes.map (·.nodeId)) with
      | some id => r.refuse (.duplicateNode id) [.createRefusedRepeated name id]
      | none =>
          let c := nodes.foldl (Cluster.enroll now) (.new name now)
          { answer := .ok c.summary
            registry := ⟨some c⟩
            events := nodes.map (fun spec => founderEvent name (spec.enroll now)) ++
              [.created name c.members.size c.totalMemoryMb] }

/-- Drops the cluster with everything in it. -/
def destroy (r : Registry) : Outcome ClusterDestroyed :=
  match r.held with
  | none => r.refuse .clusterNotFound []
  | some c =>
      { answer := .ok c.remains
        registry := ⟨none⟩
        events := [.destroyed c.name c.members.size c.endpoints.size] }

/-- Adds a node, with the endpoint that comes with it. -/
def add (now : Instant) (spec : NodeSpec) (r : Registry) : Outcome NodeAdded :=
  match r.held with
  | none => r.refuse .clusterNotFound []
  | some c =>
      if c.hasMember spec.nodeId then
        r.refuse (.duplicateNode spec.nodeId) [.addRefused c.name spec.nodeId]
      else
        let joined := c.enroll now spec
        let transport := spec.endpoint.map Endpoint.transport
        { answer := .ok ⟨spec.nodeId, joined.members.size, transport⟩
          registry := ⟨some joined⟩
          events := [.nodeJoined c.name spec.nodeId spec.hostname
            (spec.enroll now).status transport] }

/-- Removes a node; its endpoint goes with it. -/
def remove (id : UInt32) (r : Registry) : Outcome NodeRemoved :=
  match r.held with
  | none => r.refuse .clusterNotFound []
  | some c =>
      match c.members.get? id with
      | none => r.refuse (.nodeNotFound id) []
      | some m =>
          let left := c.leave id
          let pruned := c.endpoints.contains id
          { answer := .ok ⟨id, left.members.size, pruned⟩
            registry := ⟨some left⟩
            events := [.nodeLeft c.name id m.hostname pruned] }

/-- Registers the endpoint of a member, in place of the one it had.  The two may
differ in their transport: this is how a node moves to a faster one. -/
def register (id : UInt32) (e : Endpoint) (r : Registry) : Outcome EndpointRegistered :=
  match r.held with
  | none => r.refuse .clusterNotFound []
  | some c =>
      if !c.hasMember id then
        r.refuse (.nodeNotFound id) [.endpointRefused c.name id]
      else
        { answer := .ok ⟨id, e.transport, (c.endpoints.get? id).map Endpoint.transport⟩
          registry := ⟨some (c.setEndpoint id e)⟩
          events := [.endpointRegistered c.name id e] }

/-! ## Queries -/

/-- Is a cluster held? -/
def isActive (r : Registry) : Bool :=
  r.held.isSome

/-- Fails unless a cluster is held. -/
def ensure (r : Registry) : Except Error Unit :=
  r.require.map fun _ => ()

/-- The snapshot of the cluster. -/
def snapshot (r : Registry) : Except Error ClusterSnapshot :=
  r.require.map Cluster.snapshot

/-- One member. -/
def node (id : UInt32) (r : Registry) : Except Error Member := do
  let c ← r.require
  match c.members.get? id with
  | some m => return m
  | none => .error (.nodeNotFound id)

/-- The members in the order of their ids. -/
def nodes (r : Registry) : Except Error (List Member) :=
  r.require.map (·.members.values)

/-- The endpoint of one member. -/
def endpoint (id : UInt32) (r : Registry) : Except Error Endpoint := do
  let c ← r.require
  if !c.hasMember id then .error (.nodeNotFound id)
  else
    match c.endpoints.get? id with
    | some e => return e
    | none => .error (.endpointNotFound id)

/-- Every registered endpoint. -/
def endpoints (r : Registry) : Except Error EndpointDirectory :=
  r.require.map Cluster.directory

/-- The figures for monitoring. -/
def metrics (r : Registry) : Except Error ClusterMetrics :=
  r.require.map Cluster.metrics

end Registry

end ControlPlane
