import ControlPlane.Json.Value
import ControlPlane.Node

/-!
# What is logged

A log record has a level, a message and named fields.  Integers and truth values
stay what they are; everything else is text.

The registry logs events: what happened to the cluster, at level `info`, and
commands that were refused, at level `warn`.  Queries log nothing.
-/

namespace ControlPlane

/-! ## Log records -/

/-- How much a log record matters. -/
inductive LogLevel
  | debug
  | info
  | warn
deriving Repr, DecidableEq

/-- The name of a level. -/
def LogLevel.name : LogLevel → String
  | debug => "debug"
  | info => "info"
  | warn => "warn"

/-- One line of the log. -/
structure LogRecord where
  level : LogLevel
  message : String
  fields : List (String × Json.Value)
deriving Repr

/-! ## Events -/

/-- An event that the registry logs. -/
inductive Event
  | createRefusedHeld (cluster existing : String)
  | createRefusedRepeated (cluster : String) (id : UInt32)
  /-- A node of the batch that a cluster is created with. -/
  | founderJoined (cluster : String) (id : UInt32) (hostname : String) (status : Status)
  | created (cluster : String) (nodes : Nat) (totalMemoryMb : UInt64)
  | destroyed (cluster : String) (nodes endpoints : Nat)
  | addRefused (cluster : String) (id : UInt32)
  /-- A node that joined a cluster which was there. -/
  | nodeJoined (cluster : String) (id : UInt32) (hostname : String) (status : Status)
      (transport : Option Transport)
  | nodeLeft (cluster : String) (id : UInt32) (hostname : String) (endpointPruned : Bool)
  | endpointRefused (cluster : String) (id : UInt32)
  | endpointRegistered (cluster : String) (id : UInt32) (endpoint : Endpoint)
deriving Repr, DecidableEq

namespace Event

/-- The level of an event: refusals are warnings. -/
def level : Event → LogLevel
  | createRefusedHeld .. | createRefusedRepeated .. | addRefused .. | endpointRefused .. =>
      .warn
  | founderJoined .. | created .. | destroyed .. | nodeJoined .. | nodeLeft ..
  | endpointRegistered .. => .info

/-- The message of an event. -/
def message : Event → String
  | createRefusedHeld .. => "Rejected cluster create: cluster exists"
  | createRefusedRepeated .. => "Rejected cluster create: duplicate node id"
  | founderJoined .. | nodeJoined .. => "Node joined cluster"
  | created .. => "Cluster created"
  | destroyed .. => "Cluster destroyed"
  | addRefused .. => "Rejected node add: duplicate id"
  | nodeLeft .. => "Node left cluster"
  | endpointRefused .. => "Rejected endpoint: not a member"
  | endpointRegistered .. => "Endpoint registered"

/-- An optional transport, as the log shows it. -/
def transportText : Option Transport → String
  | none => "None"
  | some t => "Some(" ++ t.title ++ ")"

/-- The fields of an event. -/
def fields : Event → List (String × Json.Value)
  | createRefusedHeld cluster existing =>
      [("cluster", .text cluster), ("existing", .text existing)]
  | createRefusedRepeated cluster id | addRefused cluster id | endpointRefused cluster id =>
      [("cluster", .text cluster), ("node_id", .natural id.toNat)]
  | founderJoined cluster id hostname status =>
      [("cluster", .text cluster), ("node_id", .natural id.toNat),
       ("hostname", .text hostname), ("status", .text status.name)]
  | created cluster nodes totalMemoryMb =>
      [("cluster", .text cluster), ("nodes", .natural nodes),
       ("total_memory_mb", .natural totalMemoryMb.toNat)]
  | destroyed cluster nodes endpoints =>
      [("cluster", .text cluster), ("nodes", .natural nodes),
       ("endpoints", .natural endpoints)]
  | nodeJoined cluster id hostname status transport =>
      [("cluster", .text cluster), ("node_id", .natural id.toNat),
       ("hostname", .text hostname), ("status", .text status.name),
       ("transport", .text (transportText transport))]
  | nodeLeft cluster id hostname endpointPruned =>
      [("cluster", .text cluster), ("node_id", .natural id.toNat),
       ("hostname", .text hostname), ("endpoint_pruned", .bool endpointPruned)]
  | endpointRegistered cluster id endpoint =>
      [("cluster", .text cluster), ("node_id", .natural id.toNat),
       ("transport", .text endpoint.transport.name), ("endpoint", .text endpoint.display)]

/-- The log record of an event. -/
def record (e : Event) : LogRecord where
  level := e.level
  message := e.message
  fields := e.fields

end Event

end ControlPlane
