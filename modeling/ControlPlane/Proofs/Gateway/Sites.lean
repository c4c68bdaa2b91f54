import ControlPlane.Proofs.Gateway.Origin
import ControlPlane.Proofs.Registry.Undated

/-!
# Gateways at different sites

What a gateway does to its registry does not depend on its site: its settings, the page
directory that is attached to it, and the time.  So the same requests, sent to gateways
at two sites, lead to registries that are alike apart from instants, and are answered
alike.  A site shows in the fields about other origins, in the figures for monitoring
and in what is known of a page, and nowhere else.

Replies are compared once the members of their bodies that depend on the site, or on
instants, are veiled.
-/

/-! ## Veiled values -/

namespace ControlPlane.Json.Value

mutual

/-- The value with `null` in place of the members of the given names, however deep
they stand. -/
def veil (names : List String) : Value → Value
  | array items => .array (veilItems names items)
  | object members => .object (veilMembers names members)
  | null => .null
  | bool b => .bool b
  | number n => .number n
  | text s => .text s

/-- Items with the members of the given names veiled. -/
def veilItems (names : List String) : List Value → List Value
  | [] => []
  | item :: rest => item.veil names :: veilItems names rest

/-- Members, those of the given names veiled. -/
def veilMembers (names : List String) : List (String × Value) → List (String × Value)
  | [] => []
  | (name, value) :: rest =>
      (name, if name ∈ names then .null else value.veil names) :: veilMembers names rest

end

variable (names : List String)

theorem veilItems_eq_map (items : List Value) : veilItems names items = items.map (veil names) := by
  induction items with
  | nil => rfl
  | cons item rest ih => rw [veilItems, ih, List.map_cons]

theorem veilMembers_append (members more : List (String × Value)) :
    veilMembers names (members ++ more) = veilMembers names members ++ veilMembers names more := by
  induction members with
  | nil => rfl
  | cons first rest ih =>
      obtain ⟨name, value⟩ := first
      rw [List.cons_append, veilMembers, ih, veilMembers, List.cons_append]

end ControlPlane.Json.Value

namespace ControlPlane.Gateway

open ControlPlane.Http (Body Request Response)
open ControlPlane.Json (Value)
open ControlPlane.Time (Instant)

/-! ## Replies at two sites -/

/-- A body with the members of the given names veiled. -/
def veilBody (names : List String) : Body → Body
  | .json value => .json (value.veil names)
  | .empty => .empty
  | .text content => .text content

/-- The members that say when something happened. -/
def instantNames : List String :=
  ["joined_at", "created_at"]

/-- The members of the figures for monitoring that say where and how long they have
been collected. -/
def siteNames : List String :=
  ["coordinator_id", "uptime_secs"]

theorem veil_memberValue (m : Member) :
    (Wire.memberValue m).veil instantNames = (Wire.memberValue m.undated).veil instantNames := by
  simp [Wire.memberValue, Value.veil, Value.veilMembers_append, Value.veilMembers, instantNames,
    Member.undated]

theorem veil_nodesValue (members : List Member) :
    (Reply.nodesValue members).veil instantNames =
      (Reply.nodesValue (members.map Member.undated)).veil instantNames := by
  have same : (members.map Wire.memberValue).map (Value.veil instantNames) =
      ((members.map Member.undated).map Wire.memberValue).map (Value.veil instantNames) := by
    rw [List.map_map, List.map_map, List.map_map]
    apply List.map_congr_left
    intro m _
    exact veil_memberValue m
  have shown : "nodes" ∉ instantNames := by decide
  simp only [Reply.nodesValue, Value.veil, Value.veilMembers, if_neg shown,
    Value.veilItems_eq_map, same]

theorem veil_snapshotValue (s : ClusterSnapshot) :
    (Reply.snapshotValue s).veil instantNames =
      (Reply.snapshotValue s.undated).veil instantNames := by
  simp [Reply.snapshotValue, Value.veil, Value.veilMembers, instantNames,
    ClusterSnapshot.undated]

/-- Replies to one operation at two sites that are alike. -/
structure RepliesAlike (op : Operation) (x y : Response) : Prop where
  status : x.status = y.status
  fields : x.fields = y.fields
  /-- Figures and pages apart, they differ at most in instants. -/
  body : (x.status = 200 → op ≠ .metrics ∧ ∀ address, op ≠ .showPage address) →
    veilBody instantNames x.body = veilBody instantNames y.body
  metrics : op = .metrics → x.status = 200 →
    veilBody siteNames x.body = veilBody siteNames y.body

namespace RepliesAlike

variable {op : Operation}

theorem of_eq {x y : Response} (same : x = y) : RepliesAlike op x y := by
  subst same
  exact ⟨rfl, rfl, fun _ => rfl, fun _ _ => rfl⟩

/-- Operations that are answered with instants. -/
theorem of_instants {status : Nat} {v w : Value} (other : op ≠ .metrics)
    (same : v.veil instantNames = w.veil instantNames) :
    RepliesAlike op (.json status v) (.json status w) where
  status := rfl
  fields := rfl
  body _ := congrArg Body.json same
  metrics isMetrics := absurd isMetrics other

end RepliesAlike

section

variable (here there : Site) (now later : Instant)

theorem repliesAlike_ofPage (address : String) :
    RepliesAlike (.showPage address) (Reply.ofPage here address).response
      (Reply.ofPage there address).response := by
  unfold Reply.ofPage
  cases Address.ofText address with
  | error e => exact .of_eq rfl
  | ok a =>
      refine ⟨rfl, rfl, ?_, ?_⟩
      · intro other
        exact absurd rfl ((other rfl).2 address)
      · intro isMetrics
        contradiction

/-- Answers that are alike are shown alike. -/
theorem repliesAlike_ofAnswer (op : Operation) {a b : op.call.Answer}
    (alike : op.call.undated a = op.call.undated b) :
    RepliesAlike op (Reply.ofAnswer here now op a).response
      (Reply.ofAnswer there later op b).response := by
  cases op with
  | health | createCluster | destroyCluster | addNode | removeNode | showEndpoint
  | registerEndpoint | listEndpoints =>
      obtain rfl : a = b := alike
      exact .of_eq rfl
  | metrics =>
      obtain rfl : a = b := alike
      refine ⟨rfl, rfl, ?_, ?_⟩
      · intro other
        exact absurd rfl (other rfl).1
      · intro _ _
        apply congrArg Body.json
        simp [Reply.metricsValue, Value.veil, Value.veilMembers, siteNames]
  | showCluster =>
      apply RepliesAlike.of_instants (by simp)
      rw [veil_snapshotValue a, veil_snapshotValue b]
      exact congrArg (fun s => (Reply.snapshotValue s).veil instantNames) alike
  | showNode id =>
      apply RepliesAlike.of_instants (by simp)
      rw [veil_memberValue a, veil_memberValue b]
      exact congrArg (fun m => (Wire.memberValue m).veil instantNames) alike
  | listNodes =>
      apply RepliesAlike.of_instants (by simp)
      rw [veil_nodesValue a, veil_nodesValue b]
      exact congrArg (fun ms => (Reply.nodesValue ms).veil instantNames) alike
  | showPage address => exact repliesAlike_ofPage here there address

theorem repliesAlike_ofResult (op : Operation) {a b : Except Error op.call.Answer}
    (alike : a.map op.call.undated = b.map op.call.undated) :
    RepliesAlike op (Reply.ofResult here now op a).response
      (Reply.ofResult there later op b).response := by
  cases a with
  | error e =>
      cases b with
      | error e' =>
          obtain rfl := Except.error.inj alike
          exact .of_eq rfl
      | ok b => contradiction
  | ok a =>
      cases b with
      | error e => contradiction
      | ok b => exact repliesAlike_ofAnswer here there now later op (Except.ok.inj alike)

end

/-! ## Responses at two sites -/

/-- The request is answered with figures for monitoring. -/
def ShowsMetrics (r : Request) (response : Response) : Prop :=
  r.method = "GET" ∧ LeadsTo r.path .metrics ∧ response.status = 200

/-- The request is answered with what is known of a page. -/
def ShowsPage (r : Request) (response : Response) : Prop :=
  r.method = "GET" ∧ (∃ segment, LeadsTo r.path (.page segment)) ∧ response.status = 200

/-- Responses to one request at two sites that are alike. -/
structure Alike (r : Request) (x y : Response) : Prop where
  status : x.status = y.status
  fields : x.fields.filter (!isCorsField ·) = y.fields.filter (!isCorsField ·)
  body : ¬ShowsMetrics r x → ¬ShowsPage r x →
    veilBody instantNames x.body = veilBody instantNames y.body
  metrics : ShowsMetrics r x → veilBody siteNames x.body = veilBody siteNames y.body

section

variable (here there : Site) (now later : Instant) {r : Request}

theorem alike_finish {x y : Response} (nearX : Local x) (nearY : Local y)
    (status : x.status = y.status) (fields : x.fields = y.fields)
    (body : r.method ≠ "HEAD" → ¬ShowsMetrics r x → ¬ShowsPage r x →
      veilBody instantNames x.body = veilBody instantNames y.body)
    (metrics : ShowsMetrics r x → veilBody siteNames x.body = veilBody siteNames y.body) :
    Alike r (finish here (.ofName r.method) x) (finish there (.ofName r.method) y) where
  status := by rw [status_finish, status_finish, status]
  fields := by
    rw [filter_fields_finish here _ nearX, filter_fields_finish there _ nearY, fields]
  body notMetrics notPage := by
    simp only [ShowsMetrics, ShowsPage, status_finish] at notMetrics notPage
    rw [body_finish, body_finish]
    by_cases isHead : Http.Method.ofName r.method = .head
    · rw [if_pos isHead, if_pos isHead]
    · rw [if_neg isHead, if_neg isHead]
      apply body _ notMetrics notPage
      intro named
      exact isHead (congrArg Http.Method.ofName named)
  metrics shows := by
    simp only [ShowsMetrics, status_finish] at shows
    have notHead : Http.Method.ofName r.method ≠ .head := by
      rw [shows.1]
      decide
    rw [body_finish, body_finish, if_neg notHead, if_neg notHead]
    exact metrics shows

/-- A request that reads and does not ask for the head of an answer asks for all of it. -/
theorem Reads.eq_get (reads : Reads r) (notHead : r.method ≠ "HEAD") : r.method = "GET" := by
  rcases reads with isGet | isHead
  · exact isGet
  · exact absurd isHead notHead

theorem alike_of_asks {op : Operation} {call : Call} (asks : Asks r op call) {x y : Response}
    (nearX : Local x) (nearY : Local y) (alike : RepliesAlike op x y) :
    Alike r (finish here (.ofName r.method) x) (finish there (.ofName r.method) y) := by
  apply alike_finish here there nearX nearY alike.status alike.fields
  · intro notHead notMetrics notPage
    apply alike.body
    intro granted
    constructor
    · rintro rfl
      cases asks with
      | metrics path method => exact notMetrics ⟨method.eq_get notHead, path, granted⟩
    · rintro address rfl
      cases asks with
      | showPage path method text =>
          exact notPage ⟨method.eq_get notHead, ⟨_, path⟩, granted⟩
  · rintro ⟨isGet, path, granted⟩
    have isMetrics := (asks.unique (.metrics path (.inl isGet))).1
    exact alike.metrics isMetrics granted

/-- One request, sent to two gateways whose registries are alike, is answered alike and
leaves registries that are alike. -/
theorem alike_handle {registry other : Registry} (alike : registry.undated = other.undated)
    (r : Request) :
    Alike r (handle here now registry r).response (handle there later other r).response := by
  rcases asks_or_settled r with ⟨op, call, asks⟩ | ⟨response, settled⟩
  · rw [(handle_of_asks here now registry asks).1, (handle_of_asks there later other asks).1]
    apply alike_of_asks here there asks
    · exact local_ofResult here now op _
    · exact local_ofResult there later op _
    · apply repliesAlike_ofResult
      exact Registry.undated_answer_run now later alike op.call
  · rw [(handle_of_settled here now registry settled).1,
      (handle_of_settled there later other settled).1]
    have near := local_ofSettled settled
    exact alike_finish here there near near rfl rfl (fun _ _ _ => rfl) fun _ => rfl

end

/-! ## Sequences of requests -/

/-- The calls that requests ask for do not depend on when the requests are made. -/
theorem map_snd_callsOf (requests : List (Instant × Request)) :
    (callsOf requests).map Prod.snd = (requests.map Prod.snd).filterMap callOf? := by
  rw [callsOf, List.map_filterMap, List.filterMap_map]
  apply List.filterMap_congr
  intro visit _
  change ((callOf? visit.2).map fun call => (visit.1, call)).map Prod.snd = callOf? visit.2
  cases callOf? visit.2 <;> rfl

/-- A request that is sent to two gateways, each at an instant of its own. -/
structure Visit where
  first : Instant
  second : Instant
  request : Request

/-- The request as the first gateway gets it. -/
def Visit.atFirst (visit : Visit) : Instant × Request :=
  (visit.first, visit.request)

/-- The request as the second gateway gets it. -/
def Visit.atSecond (visit : Visit) : Instant × Request :=
  (visit.second, visit.request)

/-- Requests lead two new gateways to registries that are alike. -/
theorem undated_runAll_visits (visits : List Visit) :
    (Registry.empty.runAll (callsOf (visits.map Visit.atFirst))).undated =
      (Registry.empty.runAll (callsOf (visits.map Visit.atSecond))).undated := by
  apply Registry.undated_runAll rfl
  rw [map_snd_callsOf, map_snd_callsOf, List.map_map, List.map_map]
  rfl

/-- A visit is answered in the registry that the visits before it lead to. -/
theorem response_handleAll_map (site : Site) (received : Visit → Instant × Request)
    (before : List Visit) (visit : Visit) (after : List Visit) :
    (handleAll site .empty ((before ++ visit :: after).map received)).1[before.length]? =
      some (handle site (received visit).1
        (Registry.empty.runAll (callsOf (before.map received))) (received visit).2).response := by
  have found := response_handleAll site .empty (before.map received) (received visit).1
    (received visit).2 (after.map received)
  rw [List.length_map] at found
  rw [List.map_append, List.map_cons]
  exact found

/-- Every response of a run is that of some request in some registry. -/
theorem exists_handle_of_mem {site : Site} {registry : Registry}
    {requests : List (Instant × Request)} {response : Response}
    (responseMem : response ∈ (handleAll site registry requests).1) :
    ∃ now r earlier, response = (handle site now earlier r).response := by
  induction requests generalizing registry with
  | nil => contradiction
  | cons first rest ih =>
      obtain ⟨now, r⟩ := first
      rcases List.mem_cons.mp responseMem with isFirst | later
      · exact ⟨now, r, registry, isFirst⟩
      · exact ih later

/-- The site of a gateway shows in none of its registry's states, and in its responses
only where it has to.  Two gateways with new registries, with any settings, page
directories and starting times, get the same requests, each at instants of its own.
Then their registries are alike apart from instants, and so is each pair of responses,
apart from the fields about other origins, the figures that tell the site, and pages.
A gateway says that pages of any origin may use it in every response or never says
anything about other origins, as it is set. -/
theorem sites_do_not_interfere (first second : Settings) (pages pages' : PageDirectory)
    (startedAt startedAt' : Instant) (visits : List Visit) :
    let here := Site.ofSettings first pages startedAt
    let there := Site.ofSettings second pages' startedAt'
    let run := handleAll here .empty (visits.map Visit.atFirst)
    let run' := handleAll there .empty (visits.map Visit.atSecond)
    run.2.undated = run'.2.undated ∧
    (∀ before visit after, visits = before ++ visit :: after →
      ∃ x y, run.1[before.length]? = some x ∧ run'.1[before.length]? = some y ∧
        Alike visit.request x y) ∧
    ∀ response ∈ run.1,
      (first.corsPermissive = false →
        ∀ field ∈ response.fields, isCorsField field = false) ∧
      (first.corsPermissive = true →
        ("access-control-allow-origin", "*") ∈ response.fields) := by
  intro here there run run'
  refine ⟨?registries, ?responses, ?origins⟩
  case registries =>
    rw [registry_handleAll, registry_handleAll]
    exact undated_runAll_visits visits
  case responses =>
    rintro before visit after rfl
    exact ⟨_, _, response_handleAll_map here Visit.atFirst before visit after,
      response_handleAll_map there Visit.atSecond before visit after,
      alike_handle here there visit.first visit.second (undated_runAll_visits before)
        visit.request⟩
  case origins =>
    intro response responseMem
    obtain ⟨now, r, earlier, rfl⟩ := exists_handle_of_mem responseMem
    obtain ⟨unfinished, near, finished⟩ := handle_of_local here now earlier r
    rw [finished]
    constructor
    · intro closed
      exact local_finish here _ closed near
    · intro opened
      exact allowOrigin_mem_finish here _ opened

end ControlPlane.Gateway
