import ControlPlane.Http.Message
import ControlPlane.Text.Basic

/-!
# Routes

The API has nine routes.  A path matches at most one of them, letter by letter;
where a route has a parameter, any one segment of the path stands for it.
-/

namespace ControlPlane.Gateway

open ControlPlane.Http (Method)

/-- A resource of the API.  Parameters are segments as they stand in the path. -/
inductive Route
  | health
  | ready
  | metrics
  | cluster
  | nodes
  | node (id : List Char)
  | endpoint (id : List Char)
  | endpoints
  | page (address : List Char)
deriving Repr, DecidableEq

namespace Route

/-- The route with the given segments.  The last segment of a path stands for a
parameter only if it is not empty. -/
def ofSegments : List (List Char) → Option Route
  | [a] =>
      if a = "health".toList then some health
      else if a = "ready".toList then some ready
      else if a = "metrics".toList then some metrics
      else if a = "cluster".toList then some cluster
      else if a = "nodes".toList then some nodes
      else if a = "endpoints".toList then some endpoints
      else none
  | [a, b] =>
      if b.isEmpty then none
      else if a = "nodes".toList then some (node b)
      else if a = "pages".toList then some (page b)
      else none
  | [a, b, c] =>
      if a = "nodes".toList ∧ c = "endpoint".toList then some (endpoint b) else none
  | _ => none

/-- The route of a path. -/
def ofPath : List Char → Option Route
  | '/' :: rest => ofSegments (Text.cut '/' rest)
  | _ => none

/-- The methods that a route serves. -/
def served : Route → List Method
  | health | ready | metrics | endpoints | page _ => [.get, .head]
  | cluster => [.get, .head, .post, .delete]
  | nodes | endpoint _ => [.get, .head, .post]
  | node _ => [.get, .head, .delete]

/-- The methods that a route serves, as a header field lists them. -/
def allow (r : Route) : String :=
  String.intercalate "," (r.served.map Method.name)

end Route

end ControlPlane.Gateway
