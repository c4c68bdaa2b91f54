import ControlPlane.Text.Quoted

/-!
# Errors

Every error is a precondition that a caller did not meet.  None of them is
transient, so nothing is ever tried again.  An error is its cause; kind, message
and HTTP status are read off it.
-/

namespace ControlPlane

/-- Why a call is refused. -/
inductive Error
  /-- A cluster is held already; it has to be destroyed first. -/
  | alreadyExists (name : String)
  /-- The id belongs to another node. -/
  | duplicateNode (id : UInt32)
  /-- Another conflict with what is held. -/
  | conflict (reason : String)
  /-- No cluster is held. -/
  | clusterNotFound
  /-- The cluster has no member with this id. -/
  | nodeNotFound (id : UInt32)
  /-- The node is a member but has no endpoint. -/
  | endpointNotFound (id : UInt32)
  /-- The text is no guest physical address. -/
  | malformedAddress (text : String)
  /-- Another argument that cannot be used. -/
  | invalidArgument (reason : String)
deriving Repr, DecidableEq

/-- The four kinds of errors. -/
inductive ErrorKind
  | alreadyExists
  | conflict
  | notFound
  | invalidArgument
deriving Repr, DecidableEq

namespace ErrorKind

/-- The label of a kind, which callers may rely on. -/
def label : ErrorKind → String
  | alreadyExists => "already_exists"
  | conflict => "conflict"
  | notFound => "not_found"
  | invalidArgument => "invalid_argument"

/-- The HTTP status of a kind. -/
def status : ErrorKind → Nat
  | alreadyExists => 400
  | conflict => 400
  | notFound => 404
  | invalidArgument => 400

end ErrorKind

namespace Error

/-- The kind of an error. -/
def kind : Error → ErrorKind
  | alreadyExists _ => .alreadyExists
  | duplicateNode _ | conflict _ => .conflict
  | clusterNotFound | nodeNotFound _ | endpointNotFound _ => .notFound
  | malformedAddress _ | invalidArgument _ => .invalidArgument

/-- The wording of an error. -/
def message : Error → String
  | alreadyExists name => "Cluster already exists: " ++ name
  | duplicateNode id => "Conflict: Node " ++ Text.decimalText id.toNat ++ " already exists"
  | conflict reason => "Conflict: " ++ reason
  | clusterNotFound => "No active cluster"
  | nodeNotFound id => "Node " ++ Text.decimalText id.toNat ++ " not found"
  | endpointNotFound id =>
      "No endpoint registered for node " ++ Text.decimalText id.toNat
  | malformedAddress text => "Invalid argument: Invalid GPA format: " ++ Text.quote text
  | invalidArgument reason => "Invalid argument: " ++ reason

/-- The HTTP status of an error. -/
def status (e : Error) : Nat :=
  e.kind.status

/-- Is it worth trying again? -/
def isRetryable (_ : Error) : Bool :=
  false

end Error

end ControlPlane
