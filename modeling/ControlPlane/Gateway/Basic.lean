import ControlPlane.Gateway.Plan
import ControlPlane.Gateway.Reply
import ControlPlane.Settings.Basic

/-!
# The gateway

The gateway turns requests into calls of the registry.  It has no state of its
own: a request is planned without looking at the registry, the planned call is
made, and the answer is shown.
-/

namespace ControlPlane.Gateway

open ControlPlane.Http (Method Request Response)
open ControlPlane.Time (Instant)

/-- The site of a gateway that is started with some settings. -/
def Site.ofSettings (settings : Settings) (pages : PageDirectory) (startedAt : Instant) :
    Site where
  coordinatorId := settings.coordinatorId
  corsPermissive := settings.corsPermissive
  pages := pages
  startedAt := startedAt

/-- What a request leads to. -/
structure Handled where
  response : Response
  registry : Registry
  log : List LogRecord

/-- What depends on the origin of a request and on nothing else. -/
def vary : String × String :=
  ("vary", "origin, access-control-request-method, access-control-request-headers")

/-- The header fields about other origins. -/
def corsFields (permissive : Bool) (method : Method) : List (String × String) :=
  if !permissive then []
  else if method = .options then
    [("access-control-allow-origin", "*"), ("access-control-allow-methods", "*"),
     ("access-control-allow-headers", "*")]
  else [("access-control-allow-origin", "*"), ("access-control-expose-headers", "*")]

/-- Finishes a response: a question about the header has no body, and every
response tells what it depends on. -/
def finish (site : Site) (method : Method) (response : Response) : Response :=
  let response := if method = .head then response.withoutBody else response
  response.withFields (vary :: corsFields site.corsPermissive method)

/-- Performs an operation. -/
def perform (site : Site) (now : Instant) (registry : Registry) (op : Operation) : Handled :=
  let outcome := registry.run now op.call
  let reply := Reply.ofResult site now op outcome.answer
  { response := reply.response
    registry := outcome.registry
    log := op.prelude ++ outcome.events.map Event.record ++ reply.log }

/-- Carries a plan out. -/
def carryOut (site : Site) (now : Instant) (registry : Registry) : Plan → Handled
  | .fixed response => ⟨response, registry, []⟩
  | .perform op => perform site now registry op

/-- Handles a valid request. -/
def handle (site : Site) (now : Instant) (registry : Registry) (r : Request) : Handled :=
  let handled := carryOut site now registry (Plan.ofRequest r)
  { handled with response := finish site (.ofName r.method) handled.response }

/-- Handles valid requests one after another, each at its own instant. -/
def handleAll (site : Site) (registry : Registry) :
    List (Instant × Request) → List Response × Registry
  | [] => ([], registry)
  | (now, r) :: rest =>
      let handled := handle site now registry r
      let (responses, registry) := handleAll site handled.registry rest
      (handled.response :: responses, registry)

end ControlPlane.Gateway
