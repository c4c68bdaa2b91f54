import ControlPlane.Registry.Basic

/-!
# Calls

A call is a command or a query with its arguments, as a value.  Each call has a
type of answers of its own, and `Registry.run` carries a call out at an instant.
-/

namespace ControlPlane

open ControlPlane.Time (Instant)

/-- A command or a query with its arguments. -/
inductive Call
  | create (name : String) (nodes : List NodeSpec)
  | destroy
  | add (spec : NodeSpec)
  | remove (id : UInt32)
  | register (id : UInt32) (e : Endpoint)
  | isActive
  | ensure
  | snapshot
  | node (id : UInt32)
  | nodes
  | endpoint (id : UInt32)
  | endpoints
  | metrics
deriving Repr, DecidableEq

namespace Call

/-- The type of the answers to a call. -/
abbrev Answer : Call → Type
  | create .. => ClusterSummary
  | destroy => ClusterDestroyed
  | add .. => NodeAdded
  | remove .. => NodeRemoved
  | register .. => EndpointRegistered
  | isActive => Bool
  | ensure => Unit
  | snapshot => ClusterSnapshot
  | node .. => Member
  | nodes => List Member
  | endpoint .. => Endpoint
  | endpoints => EndpointDirectory
  | metrics => ClusterMetrics

/-- Does a call ask without changing anything? -/
def isQuery : Call → Bool
  | create .. | destroy | add .. | remove .. | register .. => false
  | isActive | ensure | snapshot | node .. | nodes | endpoint .. | endpoints | metrics => true

end Call

namespace Registry

/-- A query leaves the registry alone and logs nothing. -/
def answered (r : Registry) (answer : Except Error α) : Outcome α :=
  ⟨answer, r, []⟩

/-- Carries a call out. -/
def run (now : Instant) (r : Registry) : (call : Call) → Outcome call.Answer
  | .create name nodes => r.create now name nodes
  | .destroy => r.destroy
  | .add spec => r.add now spec
  | .remove id => r.remove id
  | .register id e => r.register id e
  | .isActive => r.answered (.ok r.isActive)
  | .ensure => r.answered r.ensure
  | .snapshot => r.answered r.snapshot
  | .node id => r.answered (r.node id)
  | .nodes => r.answered r.nodes
  | .endpoint id => r.answered (r.endpoint id)
  | .endpoints => r.answered r.endpoints
  | .metrics => r.answered r.metrics

/-- Carries calls out one after another, each at its own instant, and gives the
registry afterwards. -/
def runAll (r : Registry) (calls : List (Instant × Call)) : Registry :=
  calls.foldl (fun r (now, call) => (r.run now call).registry) r

end Registry

end ControlPlane
