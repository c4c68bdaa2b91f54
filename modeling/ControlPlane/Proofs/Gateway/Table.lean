import ControlPlane.Gateway.Plan
import ControlPlane.Proofs.Gateway.Path

/-!
# What requests ask for

A request asks for one call of the registry, or its response is settled before
any call is made.  The relations `Asks` and `Settled` give the cases in terms of
the method, the path and the body of the request; the registry does not occur in
them.  Every request is in exactly one case, and planning finds it.
-/

namespace ControlPlane.Gateway

open ControlPlane.Http (Method Request Response)
open ControlPlane.Json (Decoder)

/-! ## Parts of a request -/

/-- The request reads: it asks for a resource, or for the head of the answer. -/
def Reads (r : Request) : Prop :=
  r.method = "GET" ∨ r.method = "HEAD"

/-- A segment is the percent-encoded text of a node id. -/
def Names (segment : List Char) (id : UInt32) : Prop :=
  ∃ s, Http.Percent.decode? segment = some s ∧ Plan.nodeId? s = some id

section

variable {α : Type}

/-- The body is declared to be JSON, and is the text of a value. -/
def Carries (r : Request) (decode : Decoder α) (a : α) : Prop :=
  Plan.isDeclaredJson r = true ∧ Decoder.ofText decode r.body = .ok a

/-- The responses to bodies that carry no value.  The declaration counts before
the text, and the grammar before the type. -/
inductive BodyRefused (r : Request) (decode : Decoder α) : Response → Prop
  | undeclared (undeclared : Plan.isDeclaredJson r = false) :
      BodyRefused r decode
        (.text 415 "Expected request with \x60Content-Type: application/json\x60")
  | malformed (declared : Plan.isDeclaredJson r = true)
      (refused : Decoder.ofText decode r.body = .error .malformed) :
      BodyRefused r decode (.text 400 "Failed to parse the request body as JSON")
  | misfit {cause : Json.Misfit} (declared : Plan.isDeclaredJson r = true)
      (refused : Decoder.ofText decode r.body = .error (.misfit cause)) :
      BodyRefused r decode
        (.text 422 "Failed to deserialize the JSON body into the target type")

theorem carries_or_bodyRefused (r : Request) (decode : Decoder α) :
    (∃ a, Carries r decode a) ∨ ∃ response, BodyRefused r decode response := by
  cases declared : Plan.isDeclaredJson r with
  | false => exact .inr ⟨_, .undeclared declared⟩
  | true =>
      cases decoded : Decoder.ofText decode r.body with
      | ok a => exact .inl ⟨a, declared, decoded⟩
      | error refusal =>
          cases refusal with
          | malformed => exact .inr ⟨_, .malformed declared decoded⟩
          | misfit cause => exact .inr ⟨_, .misfit declared decoded⟩

end

/-! ## The two cases -/

/-- What a request asks for, and the call that is made for it. -/
inductive Asks (r : Request) : Operation → Call → Prop
  | health (path : LeadsTo r.path .health) (method : Reads r) : Asks r .health .isActive
  | metrics (path : LeadsTo r.path .metrics) (method : Reads r) : Asks r .metrics .metrics
  | showCluster (path : LeadsTo r.path .cluster) (method : Reads r) :
      Asks r .showCluster .snapshot
  | createCluster {request : Wire.ClusterRequest} (path : LeadsTo r.path .cluster)
      (method : r.method = "POST") (body : Carries r Wire.clusterRequest request) :
      Asks r (.createCluster request) (.create request.name request.nodes)
  | destroyCluster (path : LeadsTo r.path .cluster) (method : r.method = "DELETE") :
      Asks r .destroyCluster .destroy
  | listNodes (path : LeadsTo r.path .nodes) (method : Reads r) : Asks r .listNodes .nodes
  | addNode {spec : NodeSpec} (path : LeadsTo r.path .nodes) (method : r.method = "POST")
      (body : Carries r Wire.nodeSpec spec) : Asks r (.addNode spec) (.add spec)
  | showNode {segment : List Char} {id : UInt32} (path : LeadsTo r.path (.node segment))
      (method : Reads r) (names : Names segment id) : Asks r (.showNode id) (.node id)
  | removeNode {segment : List Char} {id : UInt32} (path : LeadsTo r.path (.node segment))
      (method : r.method = "DELETE") (names : Names segment id) :
      Asks r (.removeNode id) (.remove id)
  | showEndpoint {segment : List Char} {id : UInt32}
      (path : LeadsTo r.path (.endpoint segment)) (method : Reads r)
      (names : Names segment id) : Asks r (.showEndpoint id) (.endpoint id)
  | registerEndpoint {segment : List Char} {id : UInt32} {e : Endpoint}
      (path : LeadsTo r.path (.endpoint segment)) (method : r.method = "POST")
      (names : Names segment id) (body : Carries r Wire.endpoint e) :
      Asks r (.registerEndpoint id e) (.register id e)
  | listEndpoints (path : LeadsTo r.path .endpoints) (method : Reads r) :
      Asks r .listEndpoints .endpoints
  | showPage {segment address : List Char} (path : LeadsTo r.path (.page segment))
      (method : Reads r) (text : Http.Percent.decode? segment = some address) :
      Asks r (.showPage (String.ofList address)) .ensure

/-- The responses to requests that ask for nothing. -/
inductive Settled (r : Request) : Response → Prop
  | notFound (path : ∀ route, ¬LeadsTo r.path route) (method : r.method ≠ "OPTIONS") :
      Settled r (.empty 404)
  | optionsOfNothing (path : ∀ route, ¬LeadsTo r.path route) (method : r.method = "OPTIONS") :
      Settled r (.empty 200)
  | options {route : Route} (path : LeadsTo r.path route) (method : r.method = "OPTIONS") :
      Settled r ((Response.empty 200).withFields [("allow", route.allow)])
  | notServed {route : Route} (path : LeadsTo r.path route) (method : r.method ≠ "OPTIONS")
      (unserved : r.method ∉ route.served.map Method.name) :
      Settled r ((Response.empty 405).withFields [("allow", route.allow)])
  | ready (path : LeadsTo r.path .ready) (method : Reads r) :
      Settled r (.json 200 (.object [("status", .text "ready")]))
  | strangeNode {segment : List Char} (path : LeadsTo r.path (.node segment))
      (method : Reads r ∨ r.method = "DELETE") (strange : ¬∃ id, Names segment id) :
      Settled r (.text 400 "Invalid URL")
  | strangeEndpoint {segment : List Char} (path : LeadsTo r.path (.endpoint segment))
      (method : Reads r ∨ r.method = "POST") (strange : ¬∃ id, Names segment id) :
      Settled r (.text 400 "Invalid URL")
  | strangePage {segment : List Char} (path : LeadsTo r.path (.page segment))
      (method : Reads r) (strange : Http.Percent.decode? segment = none) :
      Settled r (.text 400 "Invalid URL")
  | clusterRefused {response : Response} (path : LeadsTo r.path .cluster)
      (method : r.method = "POST") (body : BodyRefused r Wire.clusterRequest response) :
      Settled r response
  | nodeRefused {response : Response} (path : LeadsTo r.path .nodes)
      (method : r.method = "POST") (body : BodyRefused r Wire.nodeSpec response) :
      Settled r response
  /-- The path is read first: the body counts only if the id is one. -/
  | endpointRefused {segment : List Char} {id : UInt32} {response : Response}
      (path : LeadsTo r.path (.endpoint segment)) (method : r.method = "POST")
      (names : Names segment id) (body : BodyRefused r Wire.endpoint response) :
      Settled r response

/-! ## What planning does in each case -/

section

variable {r : Request} {route : Route} {segment : List Char}

theorem name_ofName (s : String) : (Method.ofName s).name = s := by
  unfold Method.ofName
  repeat' split
  all_goals simp_all [Method.name]

theorem ofName_ne_options {s : String} (other : s ≠ "OPTIONS") :
    Method.ofName s ≠ .options := by
  intro isOptions
  have named := name_ofName s
  rw [isOptions] at named
  exact other named.symm

theorem ofPath_eq_none (path : ∀ route, ¬LeadsTo r.path route) : Route.ofPath r.path = none := by
  cases found : Route.ofPath r.path with
  | none => rfl
  | some route => exact absurd (ofPath_eq_some_iff.mp found) (path route)

theorem ofRequest_of_ne_options (path : LeadsTo r.path route) (method : r.method ≠ "OPTIONS") :
    Plan.ofRequest r = Plan.ofRoute r route (.ofName r.method) := by
  have found := ofPath_eq_some_iff.mpr path
  have other := ofName_ne_options method
  simp [Plan.ofRequest, found]

theorem ofRequest_of_reads (path : LeadsTo r.path route) (method : Reads r) :
    Plan.ofRequest r = Plan.ofGet route := by
  rcases method with isGet | isHead
  · rw [ofRequest_of_ne_options path (by simp [isGet]), isGet]
    rfl
  · rw [ofRequest_of_ne_options path (by simp [isHead]), isHead]
    rfl

theorem ofRequest_of_post (path : LeadsTo r.path route) (method : r.method = "POST") :
    Plan.ofRequest r = Plan.ofPost r route := by
  rw [ofRequest_of_ne_options path (by simp [method]), method]
  rfl

theorem ofRequest_of_delete (path : LeadsTo r.path route) (method : r.method = "DELETE") :
    Plan.ofRequest r = Plan.ofDelete route := by
  rw [ofRequest_of_ne_options path (by simp [method]), method]
  rfl

theorem ofRequest_of_options (method : r.method = "OPTIONS") :
    Plan.ofRequest r = .fixed (Plan.options (Route.ofPath r.path)) := by
  simp [Plan.ofRequest, method, Method.ofName]

theorem ofRequest_of_unserved (path : LeadsTo r.path route) (method : r.method ≠ "OPTIONS")
    (unserved : r.method ∉ route.served.map Method.name) :
    Plan.ofRequest r = .fixed (Plan.notServed route) := by
  rw [ofRequest_of_ne_options path method]
  rw [← name_ofName r.method] at method unserved
  generalize Method.ofName r.method = m at method unserved
  cases m with
  | options => contradiction
  | other name => rfl
  | get | head => cases route <;> simp [Route.served, Method.name] at unserved
  | post =>
      cases route with
      | cluster | nodes | endpoint => simp [Route.served, Method.name] at unserved
      | _ => rfl
  | delete =>
      cases route with
      | cluster | node => simp [Route.served, Method.name] at unserved
      | _ => rfl

theorem withText_of_strange (strange : Http.Percent.decode? segment = none)
    (next : List Char → Plan) : Plan.withText segment next = .fixed Plan.invalidUrl := by
  simp [Plan.withText, strange]

theorem withId_of_names {id : UInt32} (names : Names segment id) (next : UInt32 → Plan) :
    Plan.withId segment next = next id := by
  obtain ⟨s, decoded, denotes⟩ := names
  simp [Plan.withId, Plan.withText, decoded, denotes]

theorem withId_of_strange (strange : ¬∃ id, Names segment id) (next : UInt32 → Plan) :
    Plan.withId segment next = .fixed Plan.invalidUrl := by
  unfold Plan.withId Plan.withText
  cases decoded : Http.Percent.decode? segment with
  | none => rfl
  | some s =>
      cases denoted : Plan.nodeId? s with
      | none => simp [denoted]
      | some id => exact absurd ⟨id, s, decoded, denoted⟩ strange

variable {α : Type} {decode : Decoder α}

theorem withBody_of_carries {a : α} (body : Carries r decode a) (next : α → Plan) :
    Plan.withBody r decode next = next a := by
  obtain ⟨declared, decoded⟩ := body
  simp [Plan.withBody, declared, decoded]

theorem withBody_of_refused {response : Response} (body : BodyRefused r decode response)
    (next : α → Plan) : Plan.withBody r decode next = .fixed response := by
  cases body with
  | undeclared undeclared =>
      simp [Plan.withBody, undeclared, Plan.notDeclaredJson]
  | malformed declared refused => simp [Plan.withBody, declared, refused, Plan.notJson]
  | misfit declared refused => simp [Plan.withBody, declared, refused, Plan.misfitJson]

end

section

variable {r : Request}

/-- A request that asks for something is planned as asked. -/
theorem Asks.ofRequest_eq {op : Operation} {call : Call} (asks : Asks r op call) :
    Plan.ofRequest r = .perform op := by
  cases asks with
  | health path method | metrics path method | showCluster path method
  | listNodes path method | listEndpoints path method =>
      rw [ofRequest_of_reads path method]
      rfl
  | createCluster path method body | addNode path method body =>
      rw [ofRequest_of_post path method]
      exact withBody_of_carries body _
  | destroyCluster path method =>
      rw [ofRequest_of_delete path method]
      rfl
  | showNode path method names | showEndpoint path method names =>
      rw [ofRequest_of_reads path method]
      exact withId_of_names names _
  | removeNode path method names =>
      rw [ofRequest_of_delete path method]
      exact withId_of_names names _
  | registerEndpoint path method names body =>
      rw [ofRequest_of_post path method]
      exact (withId_of_names names _).trans (withBody_of_carries body _)
  | showPage path method text =>
      rw [ofRequest_of_reads path method]
      simp [Plan.ofGet, Plan.withText, text]

/-- The call is the one that the operation makes. -/
theorem Asks.call_eq {op : Operation} {call : Call} (asks : Asks r op call) : op.call = call := by
  cases asks <;> rfl

/-- A request that asks for nothing is planned to be answered as settled. -/
theorem Settled.ofRequest_eq {response : Response} (settled : Settled r response) :
    Plan.ofRequest r = .fixed response := by
  cases settled with
  | notFound path method =>
      have other := ofName_ne_options method
      simp [Plan.ofRequest, ofPath_eq_none path, Plan.notFound]
  | optionsOfNothing path method =>
      rw [ofRequest_of_options method, ofPath_eq_none path]
      rfl
  | options path method =>
      rw [ofRequest_of_options method, ofPath_eq_some_iff.mpr path]
      rfl
  | notServed path method unserved => exact ofRequest_of_unserved path method unserved
  | ready path method =>
      rw [ofRequest_of_reads path method]
      rfl
  | strangeNode path method strange =>
      rcases method with reads | deletes
      · rw [ofRequest_of_reads path reads]
        exact withId_of_strange strange _
      · rw [ofRequest_of_delete path deletes]
        exact withId_of_strange strange _
  | strangeEndpoint path method strange =>
      rcases method with reads | posts
      · rw [ofRequest_of_reads path reads]
        exact withId_of_strange strange _
      · rw [ofRequest_of_post path posts]
        exact withId_of_strange strange _
  | strangePage path method strange =>
      rw [ofRequest_of_reads path method]
      exact withText_of_strange strange _
  | clusterRefused path method body | nodeRefused path method body =>
      rw [ofRequest_of_post path method]
      exact withBody_of_refused body _
  | endpointRefused path method names body =>
      rw [ofRequest_of_post path method]
      exact (withId_of_names names _).trans (withBody_of_refused body _)

/-! ## No request is left over -/

/-- A request to read a resource asks for something or is settled. -/
private theorem asks_or_settled_of_reads {route : Route} (path : LeadsTo r.path route)
    (method : Reads r) :
    (∃ op call, Asks r op call) ∨ ∃ response, Settled r response := by
  cases route with
  | health => exact .inl ⟨_, _, .health path method⟩
  | ready => exact .inr ⟨_, .ready path method⟩
  | metrics => exact .inl ⟨_, _, .metrics path method⟩
  | cluster => exact .inl ⟨_, _, .showCluster path method⟩
  | nodes => exact .inl ⟨_, _, .listNodes path method⟩
  | endpoints => exact .inl ⟨_, _, .listEndpoints path method⟩
  | node segment =>
      by_cases named : ∃ id, Names segment id
      · obtain ⟨id, names⟩ := named
        exact .inl ⟨_, _, .showNode path method names⟩
      · exact .inr ⟨_, .strangeNode path (.inl method) named⟩
  | endpoint segment =>
      by_cases named : ∃ id, Names segment id
      · obtain ⟨id, names⟩ := named
        exact .inl ⟨_, _, .showEndpoint path method names⟩
      · exact .inr ⟨_, .strangeEndpoint path (.inl method) named⟩
  | page segment =>
      cases text : Http.Percent.decode? segment with
      | some address => exact .inl ⟨_, _, .showPage path method text⟩
      | none => exact .inr ⟨_, .strangePage path method text⟩

/-- A request to a route that serves its method asks for something or is
settled. -/
private theorem asks_or_settled_of_served {route : Route} (path : LeadsTo r.path route)
    (served : r.method ∈ route.served.map Method.name) :
    (∃ op call, Asks r op call) ∨ ∃ response, Settled r response := by
  by_cases reads : Reads r
  · exact asks_or_settled_of_reads path reads
  obtain ⟨notGet, notHead⟩ := not_or.mp reads
  cases route with
  | health | ready | metrics | endpoints | page segment =>
      simp [Route.served, Method.name, notGet, notHead] at served
  | cluster =>
      have method : r.method = "POST" ∨ r.method = "DELETE" := by
        simpa [Route.served, Method.name, notGet, notHead] using served
      rcases method with posts | deletes
      · rcases carries_or_bodyRefused r Wire.clusterRequest with ⟨request, body⟩ | ⟨response, body⟩
        · exact .inl ⟨_, _, .createCluster path posts body⟩
        · exact .inr ⟨_, .clusterRefused path posts body⟩
      · exact .inl ⟨_, _, .destroyCluster path deletes⟩
  | nodes =>
      have posts : r.method = "POST" := by
        simpa [Route.served, Method.name, notGet, notHead] using served
      rcases carries_or_bodyRefused r Wire.nodeSpec with ⟨spec, body⟩ | ⟨response, body⟩
      · exact .inl ⟨_, _, .addNode path posts body⟩
      · exact .inr ⟨_, .nodeRefused path posts body⟩
  | node segment =>
      have deletes : r.method = "DELETE" := by
        simpa [Route.served, Method.name, notGet, notHead] using served
      by_cases named : ∃ id, Names segment id
      · obtain ⟨id, names⟩ := named
        exact .inl ⟨_, _, .removeNode path deletes names⟩
      · exact .inr ⟨_, .strangeNode path (.inr deletes) named⟩
  | endpoint segment =>
      have posts : r.method = "POST" := by
        simpa [Route.served, Method.name, notGet, notHead] using served
      by_cases named : ∃ id, Names segment id
      · obtain ⟨id, names⟩ := named
        rcases carries_or_bodyRefused r Wire.endpoint with ⟨e, body⟩ | ⟨response, body⟩
        · exact .inl ⟨_, _, .registerEndpoint path posts names body⟩
        · exact .inr ⟨_, .endpointRefused path posts names body⟩
      · exact .inr ⟨_, .strangeEndpoint path (.inr posts) named⟩

/-- Every request asks for something or is settled. -/
theorem asks_or_settled (r : Request) :
    (∃ op call, Asks r op call) ∨ ∃ response, Settled r response := by
  by_cases routed : ∃ route, LeadsTo r.path route
  · obtain ⟨route, path⟩ := routed
    by_cases options : r.method = "OPTIONS"
    · exact .inr ⟨_, .options path options⟩
    by_cases served : r.method ∈ route.served.map Method.name
    · exact asks_or_settled_of_served path served
    · exact .inr ⟨_, .notServed path options served⟩
  · have unrouted := not_exists.mp routed
    by_cases options : r.method = "OPTIONS"
    · exact .inr ⟨_, .optionsOfNothing unrouted options⟩
    · exact .inr ⟨_, .notFound unrouted options⟩

/-! ## The cases exclude each other -/

/-- A request that asks for something is not settled. -/
theorem Asks.not_settled {op : Operation} {call : Call} {response : Response}
    (asks : Asks r op call) : ¬Settled r response := by
  intro settled
  have planned := asks.ofRequest_eq
  rw [settled.ofRequest_eq] at planned
  contradiction

/-- A request asks for one thing at most. -/
theorem Asks.unique {op op' : Operation} {call call' : Call} (asks : Asks r op call)
    (asks' : Asks r op' call') : op = op' ∧ call = call' := by
  have planned := asks.ofRequest_eq
  rw [asks'.ofRequest_eq] at planned
  obtain rfl := Plan.perform.inj planned
  exact ⟨rfl, asks.call_eq.symm.trans asks'.call_eq⟩

/-- A request is settled in one way at most. -/
theorem Settled.unique {response response' : Response} (settled : Settled r response)
    (settled' : Settled r response') : response = response' := by
  have planned := settled.ofRequest_eq
  rw [settled'.ofRequest_eq] at planned
  exact (Plan.fixed.inj planned).symm

/-- A request asks for an operation exactly if it is planned to perform it. -/
theorem asks_iff {op : Operation} {call : Call} :
    Asks r op call ↔ Plan.ofRequest r = .perform op ∧ call = op.call := by
  constructor
  · intro asks
    exact ⟨asks.ofRequest_eq, asks.call_eq.symm⟩
  · rintro ⟨planned, rfl⟩
    rcases asks_or_settled r with ⟨other, call, asks⟩ | ⟨response, settled⟩
    · rw [asks.ofRequest_eq] at planned
      obtain rfl := Plan.perform.inj planned
      rwa [asks.call_eq]
    · rw [settled.ofRequest_eq] at planned
      contradiction

/-- A request is settled exactly if it is planned to be answered so. -/
theorem settled_iff {response : Response} :
    Settled r response ↔ Plan.ofRequest r = .fixed response := by
  constructor
  · exact Settled.ofRequest_eq
  · intro planned
    rcases asks_or_settled r with ⟨op, call, asks⟩ | ⟨other, settled⟩
    · rw [asks.ofRequest_eq] at planned
      contradiction
    · rw [settled.ofRequest_eq] at planned
      obtain rfl := Plan.fixed.inj planned
      exact settled

end

end ControlPlane.Gateway
