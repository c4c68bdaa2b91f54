import ControlPlane.Proofs.Gateway.Origin
import ControlPlane.Proofs.Gateway.Status
import Mathlib.Data.List.Nodup

/-!
# Methods of paths

Which methods a path has is told in several ways: by the requests that are not refused for
their method, by the field that lists what is allowed, and by the answers to questions about
the head and about options.  They agree.  A path belongs to one resource at most, the methods
of the resource are those of its table, and one that is not served is refused before the
registry is asked.
-/

namespace ControlPlane.Gateway

open ControlPlane.Http (Method Request Response)
open ControlPlane.Time (Instant)

/-! ## Methods of a route -/

/-- The methods that a route serves, apart from questions about options. -/
inductive Serves : Route → String → Prop
  | get (route : Route) : Serves route "GET"
  | head (route : Route) : Serves route "HEAD"
  | createCluster : Serves .cluster "POST"
  | destroyCluster : Serves .cluster "DELETE"
  | addNode : Serves .nodes "POST"
  | removeNode (id : List Char) : Serves (.node id) "DELETE"
  | registerEndpoint (id : List Char) : Serves (.endpoint id) "POST"

section

variable {route : Route} {name : String}

theorem serves_iff : Serves route name ↔ name ∈ route.served.map Method.name := by
  constructor
  · intro serves
    cases serves with
    | get | head => cases route <;> simp [Route.served, Method.name]
    | createCluster | destroyCluster | addNode | removeNode | registerEndpoint =>
        simp [Route.served, Method.name]
  · intro served
    cases route
    all_goals
      simp only [Route.served, List.map, Method.name, List.mem_cons, List.not_mem_nil,
        or_false] at served
    case health | ready | metrics | endpoints | page =>
      rcases served with rfl | rfl
      · exact .get _
      · exact .head _
    case cluster =>
      rcases served with rfl | rfl | rfl | rfl
      · exact .get _
      · exact .head _
      · exact .createCluster
      · exact .destroyCluster
    case nodes =>
      rcases served with rfl | rfl | rfl
      · exact .get _
      · exact .head _
      · exact .addNode
    case node =>
      rcases served with rfl | rfl | rfl
      · exact .get _
      · exact .head _
      · exact .removeNode _
    case endpoint =>
      rcases served with rfl | rfl | rfl
      · exact .get _
      · exact .head _
      · exact .registerEndpoint _

/-- What is served is not asked about options. -/
theorem Serves.ne_options (serves : Serves route name) : name ≠ "OPTIONS" := by
  cases serves <;> decide

/-- The names of the methods of a route are those between the commas of its list. -/
theorem cut_allow (route : Route) :
    Text.cut ',' route.allow.toList = (route.served.map Method.name).map String.toList := by
  have whole : ∀ name ∈ (route.served.map Method.name).map String.toList, ',' ∉ name := by
    cases route <;> simp [Route.served, Method.name]
  have nonempty : (route.served.map Method.name).map String.toList ≠ [] := by
    cases route <;> simp [Route.served]
  rw [Route.allow, String.toList_intercalate, Text.cut_eq_splitOn]
  exact List.splitOn_intercalate _ whole nonempty

theorem mem_cut_allow : name.toList ∈ Text.cut ',' route.allow.toList ↔ Serves route name := by
  rw [cut_allow, serves_iff]
  exact List.mem_map_of_injective fun _ _ same => String.toList_injective same

theorem nodup_cut_allow (route : Route) : (Text.cut ',' route.allow.toList).Nodup := by
  rw [cut_allow]
  apply List.Nodup.map fun _ _ same => String.toList_injective same
  cases route <;> simp [Route.served, Method.name]

end

/-! ## Refused methods -/

section

variable {r : Request}

theorem status_ofError_ne (e : Error) : (Reply.ofError e).response.status ≠ 405 := by
  rw [status_ofError]
  rcases e.status_eq_or_eq with notFound | badRequest
  · omega
  · omega

/-- No operation is answered as if its method was not served. -/
theorem status_ofResult_ne (site : Site) (now : Instant) (op : Operation)
    (result : Except Error op.call.Answer) :
    (Reply.ofResult site now op result).response.status ≠ 405 := by
  rcases verdict_ofResult site now op result with ⟨-, status⟩ | ⟨-, shown⟩ | ⟨-, -, shown⟩
  · omega
  · rw [shown]
    exact status_ofError_ne _
  · rw [shown]
    exact status_ofError_ne _

/-- What is settled with the status for methods is settled for its method. -/
theorem Settled.unserved_of_status {response : Response} (settled : Settled r response)
    (status : response.status = 405) :
    r.method ≠ "OPTIONS" ∧ ∃ route, LeadsTo r.path route ∧ ¬Serves route r.method := by
  cases settled with
  | notServed path method unserved =>
      exact ⟨method, _, path, fun serves => unserved (serves_iff.mp serves)⟩
  | notFound | optionsOfNothing | options | ready | strangeNode | strangeEndpoint | strangePage =>
      simp [Response.empty, Response.withFields, Response.text, Response.json] at status
  | clusterRefused _ _ body | nodeRefused _ _ body | endpointRefused _ _ _ body =>
      have statuses := body.plain.1
      rw [status] at statuses
      exact absurd statuses (by decide)

variable (site : Site) (now : Instant) (registry : Registry)

/-- A request is refused for its method just if its path is that of a route that does not
serve it. -/
theorem status_eq_notServed_iff :
    (handle site now registry r).response.status = 405 ↔
      r.method ≠ "OPTIONS" ∧ ∃ route, LeadsTo r.path route ∧ ¬Serves route r.method := by
  constructor
  · intro status
    rcases asks_or_settled r with ⟨op, call, asks⟩ | ⟨response, settled⟩
    · rw [(handle_of_asks site now registry asks).1, status_finish] at status
      exact absurd status (status_ofResult_ne site now op _)
    · rw [(handle_of_settled site now registry settled).1, status_finish] at status
      exact settled.unserved_of_status status
  · rintro ⟨method, route, path, unserved⟩
    have settled := Settled.notServed path method fun served => unserved (serves_iff.mpr served)
    rw [(handle_of_settled site now registry settled).1, status_finish]
    rfl

end

/-! ## What is allowed -/

/-- A text lists the methods of a path, with commas between them and none twice: apart from
questions about options, they are those that no request for the path is refused for. -/
structure ListsMethods (site : Site) (path : List Char) (allow : String) : Prop where
  nodup : (Text.cut ',' allow.toList).Nodup
  mem_iff : ∀ now registry (r : Request), r.path = path →
    (r.method.toList ∈ Text.cut ',' allow.toList ↔
      r.method ≠ "OPTIONS" ∧ (handle site now registry r).response.status ≠ 405)

theorem LeadsTo.listsMethods {path : List Char} {route : Route} (leads : LeadsTo path route)
    (site : Site) : ListsMethods site path route.allow where
  nodup := nodup_cut_allow route
  mem_iff := by
    rintro now registry r rfl
    rw [mem_cut_allow, ne_eq _ 405, status_eq_notServed_iff]
    constructor
    · intro serves
      refine ⟨serves.ne_options, ?_⟩
      rintro ⟨-, other, leadsOther, unserved⟩
      exact unserved (leads.unique leadsOther ▸ serves)
    · rintro ⟨method, served⟩
      by_contra unserved
      exact served ⟨method, route, leads, unserved⟩

/-- Of the fields of a finished response the list of what is allowed is the only one of its
name. -/
theorem filter_allow_finish (site : Site) (method : Method) (status : Nat) (allow : String) :
    (finish site method ((Response.empty status).withFields [("allow", allow)])).fields.filter
      (·.1 = "allow") = [("allow", allow)] := by
  have others : (vary :: corsFields site.corsPermissive method).filter (·.1 = "allow") = [] := by
    apply List.filter_eq_nil_iff.mpr
    rintro ⟨name, value⟩ fieldMem isAllow
    obtain rfl : name = "allow" := of_decide_eq_true isAllow
    rcases List.mem_cons.mp fieldMem with isVary | cors
    · exact absurd (Prod.mk.inj isVary).1 (by decide)
    · have isCors := isCorsField_of_mem_corsFields method cors
      rw [isCorsField_allow] at isCors
      contradiction
  rw [fields_finish, List.filter_append, others]
  rfl

/-! ## Questions about the head -/

section

variable {r q : Request}

theorem Reads.ne_options (method : Reads r) : r.method ≠ "OPTIONS" := by
  rcases method with isGet | isHead
  · simp [isGet]
  · simp [isHead]

/-- Requests that read one path are planned for alike. -/
theorem Reads.ofRequest_eq (method : Reads r) (method' : Reads q) (path : r.path = q.path) :
    Plan.ofRequest r = Plan.ofRequest q := by
  by_cases routed : ∃ route, LeadsTo q.path route
  · obtain ⟨route, leads⟩ := routed
    have leads' : LeadsTo r.path route := path ▸ leads
    rw [ofRequest_of_reads leads method', ofRequest_of_reads leads' method]
  · have unrouted := not_exists.mp routed
    have unrouted' : ∀ route, ¬LeadsTo r.path route := path ▸ unrouted
    rw [(Settled.notFound unrouted method'.ne_options).ofRequest_eq,
      (Settled.notFound unrouted' method.ne_options).ofRequest_eq]

/-- Who reads makes no command. -/
theorem Asks.isQuery_of_reads {op : Operation} {call : Call} (asks : Asks r op call)
    (method : Reads r) : call.isQuery = true := by
  by_contra command
  have sent := asks.method_of_command (by simpa using command)
  rcases method with isGet | isHead
  · simp [isGet] at sent
  · simp [isHead] at sent

/-- Only the body of the answer to a query tells when it was asked. -/
theorem withoutBody_ofResult (site : Site) (now later : Instant) (registry : Registry)
    (op : Operation) (query : op.call.isQuery = true) :
    (Reply.ofResult site later op (registry.run later op.call).answer).response.withoutBody =
      (Reply.ofResult site now op (registry.run now op.call).answer).response.withoutBody := by
  cases op with
  | createCluster | destroyCluster | addNode | removeNode | registerEndpoint => contradiction
  | metrics =>
      change (Reply.ofResult site later .metrics registry.metrics).response.withoutBody =
        (Reply.ofResult site now .metrics registry.metrics).response.withoutBody
      cases registry.metrics <;> rfl
  | health | showCluster | listNodes | showNode | showEndpoint | listEndpoints | showPage => rfl

theorem finish_head {site : Site} {x y : Response} (same : x.withoutBody = y.withoutBody) :
    finish site .head x = (finish site .get y).withoutBody := by
  change x.withoutBody.withFields _ = y.withoutBody.withFields _
  rw [same]
  rfl

/-- A question about the head is answered as the resource is, but without a body. -/
theorem response_of_head (site : Site) (now later : Instant) (registry : Registry)
    (isHead : r.method = "HEAD") (isGet : q.method = "GET") (path : r.path = q.path) :
    (handle site later registry r).response =
      (handle site now registry q).response.withoutBody := by
  have planned := Reads.ofRequest_eq (.inr isHead) (.inl isGet) path
  rcases asks_or_settled q with ⟨op, call, asks⟩ | ⟨response, settled⟩
  · have asksHead : Asks r op op.call := asks_iff.mpr ⟨planned.trans asks.ofRequest_eq, rfl⟩
    rw [(handle_of_asks site later registry asksHead).1, (handle_of_asks site now registry asks).1,
      isHead, isGet]
    exact finish_head (withoutBody_ofResult site now later registry op
      (asksHead.isQuery_of_reads (.inr isHead)))
  · have settledHead := settled_iff.mpr (planned.trans settled.ofRequest_eq)
    rw [(handle_of_settled site later registry settledHead).1,
      (handle_of_settled site now registry settled).1, isHead, isGet]
    exact finish_head rfl

end

/-! ## Answers without a body -/

/-- A request makes no call, changes nothing, and is answered with a status and no body. -/
structure AnsweredBare (site : Site) (now : Instant) (registry : Registry) (r : Request)
    (status : Nat) : Prop where
  call : callOf? r = none
  unchanged : (handle site now registry r).registry = registry
  status : (handle site now registry r).response.status = status
  body : (handle site now registry r).response.body = .empty

section

variable {r : Request} (site : Site) (now : Instant) (registry : Registry)

theorem Settled.answeredBare {response : Response} (settled : Settled r response)
    (bare : response.body = .empty) : AnsweredBare site now registry r response.status := by
  have declined := settled.declines site
  refine ⟨declined.call, declined.registry now registry, ?_, ?_⟩
  · rw [declined.response, status_finish]
  · rw [declined.response, body_finish, bare, ite_self]

theorem answeredBare_of_options (method : r.method = "OPTIONS") :
    AnsweredBare site now registry r 200 := by
  by_cases routed : ∃ route, LeadsTo r.path route
  · obtain ⟨route, path⟩ := routed
    exact (Settled.options path method).answeredBare site now registry rfl
  · have unrouted := not_exists.mp routed
    exact (Settled.optionsOfNothing unrouted method).answeredBare site now registry rfl

/-- What is answered about a known path if the method is a question about options, or is not
served. -/
theorem exists_listsMethods (known : ∃ route, LeadsTo r.path route)
    (told : r.method = "OPTIONS" ∨ (handle site now registry r).response.status = 405) :
    ∃ allow, (handle site now registry r).response.fields.filter (·.1 = "allow") =
      [("allow", allow)] ∧ ListsMethods site r.path allow := by
  obtain ⟨route, path⟩ := known
  refine ⟨route.allow, ?_, path.listsMethods site⟩
  by_cases method : r.method = "OPTIONS"
  · rw [(handle_of_settled site now registry (.options path method)).1]
    exact filter_allow_finish site _ 200 route.allow
  · have status := told.resolve_left method
    obtain ⟨-, other, leads, unserved⟩ := (status_eq_notServed_iff site now registry).mp status
    obtain rfl := path.unique leads
    have settled := Settled.notServed leads method fun served => unserved (serves_iff.mpr served)
    rw [(handle_of_settled site now registry settled).1]
    exact filter_allow_finish site _ 405 other.allow

end

/-! ## The theorem -/

/-- A question about the head is answered as the resource is, but without a body.  Apart from
questions about options, a request is refused for its method just if its path is that of a
route that does not serve it; it is then told which methods are not refused, and so are
questions about options, which are never refused.  No path leads to two routes, and on a path
that leads to none nothing is found, whatever the method is. -/
theorem methods_agree (site : Site) (now later : Instant) (registry : Registry) :
    (∀ r q : Request, r.method = "HEAD" → q.method = "GET" → r.path = q.path →
      (handle site later registry r).response =
          (handle site now registry q).response.withoutBody ∧
        (handle site later registry r).registry = registry ∧
        (handle site now registry q).registry = registry) ∧
    (∀ r : Request, r.method ≠ "OPTIONS" →
      ((handle site now registry r).response.status = 405 ↔
        ∃ route, LeadsTo r.path route ∧ ¬Serves route r.method)) ∧
    (∀ r : Request, (∃ route, LeadsTo r.path route) →
      r.method = "OPTIONS" ∨ (handle site now registry r).response.status = 405 →
      ∃ allow, (handle site now registry r).response.fields.filter (·.1 = "allow") =
        [("allow", allow)] ∧ ListsMethods site r.path allow) ∧
    (∀ r : Request, r.method = "OPTIONS" → AnsweredBare site now registry r 200) ∧
    (∀ path route route', LeadsTo path route → LeadsTo path route' → route' = route) ∧
    (∀ r : Request, r.method ≠ "OPTIONS" → (∀ route, ¬LeadsTo r.path route) →
      AnsweredBare site now registry r 404) := by
  refine ⟨?head, ?unserved, ?allow, ?options, ?unique, ?unknown⟩
  case head =>
    intro r q isHead isGet path
    refine ⟨response_of_head site now later registry isHead isGet path, ?_, ?_⟩
    · exact (orderly_handle site later registry r).unchanged_of_method (by simp [isHead])
        (by simp [isHead])
    · exact (orderly_handle site now registry q).unchanged_of_method (by simp [isGet])
        (by simp [isGet])
  case unserved =>
    intro r method
    rw [status_eq_notServed_iff, and_iff_right method]
  case allow =>
    exact fun r known told => exists_listsMethods site now registry known told
  case options =>
    exact fun r method => answeredBare_of_options site now registry method
  case unique =>
    exact fun path route route' leads leads' => leads.unique leads'
  case unknown =>
    exact fun r method unrouted =>
      (Settled.notFound unrouted method).answeredBare site now registry rfl

/-- The methods of a node: its head is answered as the node is, it cannot be sent anything,
and of the methods that it lists deletion is one.  A question about options is answered where
nothing is, and a path that ends in an empty segment leads nowhere. -/
theorem methods_agree_on_node :
    let site : Site := ⟨"coord", false, .unassigned, .epoch⟩
    let registry : Registry := ⟨some (.new "c" .epoch)⟩
    let asking (method target : String) : Request := ⟨method, target, [], ""⟩
    (handle site .epoch registry (asking "HEAD" "/nodes/7")).response =
      (handle site .epoch registry (asking "GET" "/nodes/7")).response.withoutBody ∧
    (handle site .epoch registry (asking "POST" "/nodes/7")).response.status = 405 ∧
    (∃ allow, (handle site .epoch registry (asking "POST" "/nodes/7")).response.fields.filter
      (·.1 = "allow") = [("allow", allow)] ∧ "DELETE".toList ∈ Text.cut ',' allow.toList) ∧
    AnsweredBare site .epoch registry (asking "OPTIONS" "/") 200 ∧
    AnsweredBare site .epoch registry (asking "DELETE" "/nodes/") 404 := by
  intro site registry asking
  obtain ⟨head, unserved, allowed, options, unique, unknown⟩ :=
    methods_agree site .epoch .epoch registry
  have leads : LeadsTo (asking "POST" "/nodes/7").path (.node "7".toList) :=
    ofPath_eq_some_iff.mp (by decide)
  have posted : (handle site .epoch registry (asking "POST" "/nodes/7")).response.status = 405 :=
    (unserved _ (by decide)).mpr
      ⟨_, leads, fun serves => absurd (serves_iff.mp serves) (by decide)⟩
  have deleted :
      (handle site .epoch registry (asking "DELETE" "/nodes/7")).response.status ≠ 405 := by
    intro status
    obtain ⟨route, leads', refused⟩ := (unserved (asking "DELETE" "/nodes/7") (by decide)).mp status
    obtain rfl := unique _ _ _ leads leads'
    exact refused (.removeNode _)
  have unrouted : ∀ route, ¬LeadsTo (asking "DELETE" "/nodes/").path route := by
    intro route leads'
    have nowhere : Route.ofPath (asking "DELETE" "/nodes/").path = none := by decide
    rw [ofPath_eq_some_iff.mpr leads'] at nowhere
    contradiction
  obtain ⟨allow, told, lists⟩ := allowed (asking "POST" "/nodes/7") ⟨_, leads⟩ (.inr posted)
  have answered := head (asking "HEAD" "/nodes/7") (asking "GET" "/nodes/7") rfl rfl rfl
  refine ⟨answered.1, posted, ⟨allow, told, ?_⟩, options _ rfl,
    unknown _ (by decide) unrouted⟩
  exact (lists.mem_iff .epoch registry (asking "DELETE" "/nodes/7") rfl).mpr ⟨by decide, deleted⟩

end ControlPlane.Gateway
