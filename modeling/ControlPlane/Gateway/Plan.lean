import ControlPlane.Gateway.Route
import ControlPlane.Http.MediaType
import ControlPlane.Http.Message
import ControlPlane.Http.Percent
import ControlPlane.Registry.Call
import ControlPlane.Wire.ClusterRequest

/-!
# Operations and plans

An operation is what a request asks for once its parameters and its body have
been read.  Each operation makes exactly one call of the registry.

What is done about a request is decided by the request alone: it is answered
with a fixed response, or an operation is performed.  Parameters are read before
the body, and the body is read only if its media type is JSON.
-/

namespace ControlPlane.Gateway

open ControlPlane.Http (Method Request Response)
open ControlPlane.Json (Decoder)

/-! ## Operations -/

/-- What a request asks for. -/
inductive Operation
  | health
  | metrics
  | showCluster
  | createCluster (request : Wire.ClusterRequest)
  | destroyCluster
  | listNodes
  | addNode (spec : NodeSpec)
  | showNode (id : UInt32)
  | removeNode (id : UInt32)
  | showEndpoint (id : UInt32)
  | registerEndpoint (id : UInt32) (e : Endpoint)
  | listEndpoints
  /-- The page of the address that a text denotes. -/
  | showPage (address : String)
deriving Repr, DecidableEq

namespace Operation

/-- The call that an operation makes. -/
abbrev call : Operation → Call
  | health => .isActive
  | metrics => .metrics
  | showCluster => .snapshot
  | createCluster request => .create request.name request.nodes
  | destroyCluster => .destroy
  | listNodes => .nodes
  | addNode spec => .add spec
  | showNode id => .node id
  | removeNode id => .remove id
  | showEndpoint id => .endpoint id
  | registerEndpoint id e => .register id e
  | listEndpoints => .endpoints
  | showPage _ => .ensure

/-- What is logged before the call is made. -/
def prelude : Operation → List LogRecord
  | createCluster request =>
      [{ level := .info, message := "Creating cluster"
         fields := [("cluster", .text request.name), ("nodes", .natural request.nodes.length)] }]
  | _ => []

end Operation

/-! ## Plans -/

/-- What is done about a request. -/
inductive Plan
  | fixed (response : Response)
  | perform (op : Operation)

namespace Plan

/-- A path parameter that cannot be used. -/
def invalidUrl : Response :=
  .text 400 "Invalid URL"

/-- A body that is not declared to be JSON. -/
def notDeclaredJson : Response :=
  .text 415 "Expected request with \x60Content-Type: application/json\x60"

/-- A body that is not JSON. -/
def notJson : Response :=
  .text 400 "Failed to parse the request body as JSON"

/-- A body that does not fit. -/
def misfitJson : Response :=
  .text 422 "Failed to deserialize the JSON body into the target type"

/-- Nothing is there. -/
def notFound : Response :=
  .empty 404

/-- The route does not serve the method. -/
def notServed (route : Route) : Response :=
  (Response.empty 405).withFields [("allow", route.allow)]

/-- The answer to a question about options. -/
def options (route : Option Route) : Response :=
  (Response.empty 200).withFields
    (match route with
      | some route => [("allow", route.allow)]
      | none => [])

/-! ## Parameters and bodies -/

/-- A node id: decimal digits below `2 ^ 32`, after a plus sign if there is
one. -/
def nodeId? (s : List Char) : Option UInt32 :=
  let digits := match s with
    | '+' :: rest => rest
    | s => s
  match Text.decimalValue? digits with
  | some n => if n < UInt32.size then some (.ofNat n) else none
  | none => none

/-- Goes on with the text of a parameter. -/
def withText (segment : List Char) (next : List Char → Plan) : Plan :=
  match Http.Percent.decode? segment with
  | some s => next s
  | none => .fixed invalidUrl

/-- Goes on with the node id that a parameter denotes. -/
def withId (segment : List Char) (next : UInt32 → Plan) : Plan :=
  withText segment fun s =>
    match nodeId? s with
    | some id => next id
    | none => .fixed invalidUrl

/-- Is the body of a request declared to be JSON? -/
def isDeclaredJson (r : Request) : Bool :=
  match r.field? "content-type" with
  | some mediaType => Http.MediaType.isJson mediaType
  | none => false

/-- Goes on with the decoded body of a request. -/
def withBody (r : Request) (decode : Decoder α) (next : α → Plan) : Plan :=
  if !isDeclaredJson r then .fixed notDeclaredJson
  else
    match Decoder.ofText decode r.body with
    | .ok a => next a
    | .error .malformed => .fixed notJson
    | .error (.misfit _) => .fixed misfitJson

/-! ## Routing -/

/-- What a route does when it is asked for something. -/
def ofGet : Route → Plan
  | .health => .perform .health
  | .ready => .fixed (.json 200 (.object [("status", .text "ready")]))
  | .metrics => .perform .metrics
  | .cluster => .perform .showCluster
  | .nodes => .perform .listNodes
  | .node segment => withId segment fun id => .perform (.showNode id)
  | .endpoint segment => withId segment fun id => .perform (.showEndpoint id)
  | .endpoints => .perform .listEndpoints
  | .page segment => withText segment fun s => .perform (.showPage (String.ofList s))

/-- What a route does when it is sent something. -/
def ofPost (r : Request) : Route → Plan
  | .cluster => withBody r Wire.clusterRequest fun request => .perform (.createCluster request)
  | .nodes => withBody r Wire.nodeSpec fun spec => .perform (.addNode spec)
  | .endpoint segment =>
      withId segment fun id =>
        withBody r Wire.endpoint fun e => .perform (.registerEndpoint id e)
  | route => .fixed (notServed route)

/-- What a route does when it is to delete something. -/
def ofDelete : Route → Plan
  | .cluster => .perform .destroyCluster
  | .node segment => withId segment fun id => .perform (.removeNode id)
  | route => .fixed (notServed route)

/-- What is done about a request for a route. -/
def ofRoute (r : Request) (route : Route) : Method → Plan
  | .get | .head => ofGet route
  | .post => ofPost r route
  | .delete => ofDelete route
  | .options => .fixed (options (some route))
  | .other _ => .fixed (notServed route)

/-- What is done about a request. -/
def ofRequest (r : Request) : Plan :=
  match Route.ofPath r.path, Method.ofName r.method with
  | route, .options => .fixed (options route)
  | some route, method => ofRoute r route method
  | none, _ => .fixed notFound

end Plan

end ControlPlane.Gateway
