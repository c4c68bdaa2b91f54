import ControlPlane.Proofs.Gateway.Pages

/-!
# Nodes by their ids

A node is named in one segment of a path: as a member at its end, and in front of the fixed
text of its endpoint.  The segment is taken as it stands between its slashes and decoded
afterwards, and it names a node just if it encodes digits of a number below `2 ^ 32`, after a
plus sign if there is one.  Every other segment is refused before the body is looked at and
before the registry is asked.  All segments that name one node are as good as each other.
-/

namespace ControlPlane.Gateway

open ControlPlane.Http (Request Response)
open ControlPlane.Time (Instant)

/-! ## Spellings of ids -/

/-- A number in decimal digits, after a plus sign if there is one. -/
inductive SpellsId : List Char → Nat → Prop
  | plain {s : List Char} {n : Nat} (digits : Text.Denotes 10 s n) : SpellsId s n
  | signed {s : List Char} {n : Nat} (digits : Text.Denotes 10 s n) : SpellsId ('+' :: s) n

/-- A segment encodes the spelling of an id. -/
def DenotesId (segment : List Char) (id : UInt32) : Prop :=
  ∃ text n, Encodes segment text ∧ SpellsId text n ∧ n < 2 ^ 32 ∧ id = .ofNat n

section

variable {s segment text : List Char} {id : UInt32}

/-- What is no digit stands in no run of digits. -/
theorem not_mem_of_denotes {c : Char} {n : Nat} (foreign : Text.isDecimal c = false)
    (digits : Text.Denotes 10 s n) : c ∉ s := by
  intro cMem
  obtain ⟨d, digit⟩ := digits.exists_isDigit cMem
  rw [Text.isDecimal, Text.decimalDigit?_eq_some_iff.mpr digit] at foreign
  contradiction

/-- The id that digits denote. -/
def digitsId? (s : List Char) : Option UInt32 :=
  match Text.decimalValue? s with
  | some n => if n < UInt32.size then some (.ofNat n) else none
  | none => none

theorem digitsId?_eq_some_iff :
    digitsId? s = some id ↔ ∃ n, Text.Denotes 10 s n ∧ n < 2 ^ 32 ∧ id = .ofNat n := by
  simp only [← Text.decimalValue?_eq_some_iff]
  unfold digitsId?
  cases Text.decimalValue? s with
  | none => simp
  | some m => simp [UInt32.size, eq_comm]

theorem nodeId?_signed (s : List Char) : Plan.nodeId? ('+' :: s) = digitsId? s :=
  rfl

theorem nodeId?_plain (unsigned : ∀ rest, s ≠ '+' :: rest) : Plan.nodeId? s = digitsId? s := by
  unfold Plan.nodeId?
  split
  · next rest => exact absurd rfl (unsigned rest)
  · rfl

theorem nodeId?_eq_some_iff :
    Plan.nodeId? text = some id ↔ ∃ n, SpellsId text n ∧ n < 2 ^ 32 ∧ id = .ofNat n := by
  by_cases signed : ∃ rest, text = '+' :: rest
  · obtain ⟨rest, rfl⟩ := signed
    rw [nodeId?_signed, digitsId?_eq_some_iff]
    constructor
    · rintro ⟨n, digits, small, rfl⟩
      exact ⟨n, .signed digits, small, rfl⟩
    · rintro ⟨n, spells, small, rfl⟩
      cases spells with
      | plain digits => exact absurd List.mem_cons_self (not_mem_of_denotes rfl digits)
      | signed digits => exact ⟨n, digits, small, rfl⟩
  · rw [nodeId?_plain (not_exists.mp signed), digitsId?_eq_some_iff]
    constructor
    · rintro ⟨n, digits, small, rfl⟩
      exact ⟨n, .plain digits, small, rfl⟩
    · rintro ⟨n, spells, small, rfl⟩
      cases spells with
      | plain digits => exact ⟨n, digits, small, rfl⟩
      | signed => exact absurd ⟨_, rfl⟩ signed

theorem names_iff_denotesId : Names segment id ↔ DenotesId segment id := by
  simp only [Names, DenotesId, Http.Percent.decode?_eq_some_iff, nodeId?_eq_some_iff, Encodes]
  constructor
  · rintro ⟨text, encodes, n, spells, small, rfl⟩
    exact ⟨text, n, encodes, spells, small, rfl⟩
  · rintro ⟨text, n, encodes, spells, small, rfl⟩
    exact ⟨text, encodes, n, spells, small, rfl⟩

end

/-! ## Requests about a node -/

/-- What there is to be asked for of a node. -/
inductive NodeResource
  | member
  | endpoint

namespace NodeResource

/-- The path of what is asked for of the node that a segment names. -/
def path (segment : List Char) : NodeResource → List Char
  | member => "/nodes/".toList ++ segment
  | endpoint => "/nodes/".toList ++ segment ++ "/endpoint".toList

/-- The route of what is asked for. -/
def route (segment : List Char) : NodeResource → Route
  | member => .node segment
  | endpoint => .endpoint segment

/-- The methods that are served. -/
def methods : NodeResource → List String
  | member => ["GET", "HEAD", "DELETE"]
  | endpoint => ["GET", "HEAD", "POST"]

end NodeResource

/-- The path of a request has a segment for a node.  It may be empty where something
follows it. -/
structure Addresses (r : Request) (resource : NodeResource) (segment : List Char) : Prop where
  path : r.path = resource.path segment
  whole : '/' ∉ segment
  nonempty : resource = .member → segment ≠ []

/-- What a request asks for as soon as it is known of which node. -/
inductive AsksOf (r : Request) : NodeResource → (UInt32 → Operation) → Prop
  | showNode (method : Reads r) : AsksOf r .member .showNode
  | removeNode (method : r.method = "DELETE") : AsksOf r .member .removeNode
  | showEndpoint (method : Reads r) : AsksOf r .endpoint .showEndpoint
  | registerEndpoint {e : Endpoint} (method : r.method = "POST")
      (body : Carries r Wire.endpoint e) : AsksOf r .endpoint (.registerEndpoint · e)

section

variable {r : Request} {resource : NodeResource} {segment : List Char} {id : UInt32}

theorem Addresses.leadsTo (addresses : Addresses r resource segment) :
    LeadsTo r.path (resource.route segment) := by
  rw [addresses.path]
  cases resource with
  | member => exact .node addresses.whole (addresses.nonempty rfl)
  | endpoint => exact .endpoint addresses.whole

/-- Who names a node asks for its operation. -/
theorem AsksOf.asks {op : UInt32 → Operation} (asksOf : AsksOf r resource op)
    (addresses : Addresses r resource segment) (denotes : DenotesId segment id) :
    Asks r (op id) (op id).call := by
  have path := addresses.leadsTo
  have names := names_iff_denotesId.mpr denotes
  cases asksOf with
  | showNode method => exact .showNode path method names
  | removeNode method => exact .removeNode path method names
  | showEndpoint method => exact .showEndpoint path method names
  | registerEndpoint method body => exact .registerEndpoint path method names body

/-- The call of an operation tells which node it is about. -/
theorem AsksOf.id_eq {op : UInt32 → Operation} (asksOf : AsksOf r resource op) {other : UInt32}
    (same : (op id).call = (op other).call) : id = other := by
  cases asksOf with
  | showNode => exact Call.node.inj same
  | removeNode => exact Call.remove.inj same
  | showEndpoint => exact Call.endpoint.inj same
  | registerEndpoint => exact (Call.register.inj same).1

/-- A segment that names no node is refused, whatever the body is. -/
theorem Addresses.settled_of_strange (addresses : Addresses r resource segment)
    (method : r.method ∈ resource.methods) (strange : ¬∃ id, DenotesId segment id) :
    Settled r (.text 400 "Invalid URL") := by
  have path := addresses.leadsTo
  simp only [← names_iff_denotesId] at strange
  cases resource with
  | member =>
      refine .strangeNode path ?_ strange
      simpa [NodeResource.methods, Reads, or_assoc] using method
  | endpoint =>
      refine .strangeEndpoint path ?_ strange
      simpa [NodeResource.methods, Reads, or_assoc] using method

theorem Addresses.makes_iff (site : Site) {op : UInt32 → Operation}
    (addresses : Addresses r resource segment) (asksOf : AsksOf r resource op) :
    Makes site r (op id) ↔ DenotesId segment id := by
  constructor
  · intro makes
    have method : r.method ∈ resource.methods := by
      cases asksOf with
      | showNode method | showEndpoint method =>
          rcases method with isGet | isHead
          · simp [NodeResource.methods, isGet]
          · simp [NodeResource.methods, isHead]
      | removeNode method | registerEndpoint method => simp [NodeResource.methods, method]
    by_cases named : ∃ id, DenotesId segment id
    · obtain ⟨other, denotes⟩ := named
      have made := (asksOf.asks addresses denotes).makes site
      have same := Option.some.inj (made.call.symm.trans makes.call)
      rwa [← asksOf.id_eq same]
    · have declined := ((addresses.settled_of_strange method named).declines site).call
      rw [makes.call] at declined
      contradiction
  · intro denotes
    exact (asksOf.asks addresses denotes).makes site

/-! ## Segments that name one node -/

/-- A segment that names a node is planned for as the decimal numeral of its id is. -/
theorem ofRoute_of_denotesId (r : Request) (resource : NodeResource) (method : Http.Method)
    (denotes : DenotesId segment id) :
    Plan.ofRoute r (resource.route segment) method =
      Plan.ofRoute r (resource.route (Text.decimal id.toNat)) method := by
  have same (next : UInt32 → Plan) :
      Plan.withId segment next = Plan.withId (Text.decimal id.toNat) next := by
    rw [withId_of_names (names_iff_denotesId.mpr denotes), withId_of_names (names_decimal id)]
  cases resource with
  | member =>
      cases method with
      | get | head | delete => exact same _
      | post | options | other => rfl
  | endpoint =>
      cases method with
      | get | head | post => exact same _
      | delete | options | other => rfl

/-- What is done for a route does not depend on how the target spells it. -/
theorem ofRoute_with_target (r : Request) (target : String) (route : Route)
    (method : Http.Method) :
    Plan.ofRoute { r with target := target } route method = Plan.ofRoute r route method := by
  cases method with
  | post => cases route <;> rfl
  | get | head | delete | options | other => rfl

theorem ofRequest_of_denotesId {target : String} {segment' : List Char}
    (addresses : Addresses r resource segment)
    (addresses' : Addresses { r with target := target } resource segment')
    (denotes : DenotesId segment id) (denotes' : DenotesId segment' id) :
    Plan.ofRequest { r with target := target } = Plan.ofRequest r := by
  by_cases options : r.method = "OPTIONS"
  · have planned' := ofRequest_of_options (r := { r with target := target }) options
    rw [ofRequest_of_options options, planned', ofPath_eq_some_iff.mpr addresses.leadsTo,
      ofPath_eq_some_iff.mpr addresses'.leadsTo]
    cases resource <;> rfl
  · rw [ofRequest_of_ne_options addresses.leadsTo options,
      ofRequest_of_ne_options addresses'.leadsTo options, ofRoute_with_target,
      ofRoute_of_denotesId r resource _ denotes, ofRoute_of_denotesId r resource _ denotes']

/-- It does not matter when a request about a node is made. -/
theorem Addresses.handle_eq (addresses : Addresses r resource segment) (site : Site)
    (now later : Instant) (registry : Registry) :
    handle site now registry r = handle site later registry r := by
  rcases asks_or_settled r with ⟨op, call, asks⟩ | ⟨response, settled⟩
  · have planned := asks.ofRequest_eq
    rw [handle, handle, planned]
    cases asks with
    | showNode | removeNode | showEndpoint | registerEndpoint => rfl
    | health path | metrics path | showCluster path | createCluster path | destroyCluster path
    | listNodes path | addNode path | listEndpoints path | showPage path =>
        have same := path.unique addresses.leadsTo
        cases resource <;> cases same
  · rw [handle, handle, settled.ofRequest_eq]
    rfl

theorem handle_of_denotesId {target : String} {segment' : List Char}
    (addresses : Addresses r resource segment)
    (addresses' : Addresses { r with target := target } resource segment')
    (denotes : DenotesId segment id) (denotes' : DenotesId segment' id) (site : Site)
    (now later : Instant) (registry : Registry) :
    handle site later registry { r with target := target } = handle site now registry r := by
  calc
    handle site later registry { r with target := target }
        = handle site later registry r := by
          unfold handle
          rw [ofRequest_of_denotesId addresses addresses' denotes denotes']
    _ = handle site now registry r := addresses.handle_eq site later now registry

end

/-! ## Segments in targets -/

section

variable {r : Request} {resource : NodeResource} {segment : List Char}

/-- The path of a node but for the slash at its front. -/
theorem NodeResource.exists_path_eq_cons (resource : NodeResource) (segment : List Char) :
    ∃ before after, resource.path segment = '/' :: (before ++ segment ++ after) ∧
      before.length + after.length ≤ 15 ∧ (before ++ after).all Http.Target.isPlain = true := by
  cases resource with
  | member =>
      refine ⟨"nodes/".toList, [], ?_, by decide, by decide⟩
      rw [List.append_nil]
      rfl
  | endpoint => exact ⟨"nodes/".toList, "/endpoint".toList, rfl, by decide, by decide⟩

/-- A valid target whose path has a segment for a node. -/
theorem addresses_of_target (valid : r.isValid = true)
    (target : r.target = String.ofList (resource.path segment)) (whole : '/' ∉ segment)
    (noMark : '?' ∉ segment) (noHash : '#' ∉ segment)
    (nonempty : resource = .member → segment ≠ []) : Addresses r resource segment := by
  refine ⟨?_, whole, nonempty⟩
  obtain ⟨before, after, spelled, -, plain⟩ := resource.exists_path_eq_cons segment
  have absent (c : Char) (barred : Http.Target.isPlain c = false) : c ∉ before ++ after := by
    intro cMem
    have allowed := List.all_eq_true.mp plain c cMem
    rw [barred] at allowed
    contradiction
  have noMarkAround := absent '?' (by decide)
  have noHashAround := absent '#' (by decide)
  rw [List.mem_append, not_or] at noMarkAround noHashAround
  rw [spelled] at target ⊢
  apply Request.path_of_target valid target
  · simp [noMark, noMarkAround]
  · simp [noHash, noHashAround]

theorem denotesId_decimal (id : UInt32) : DenotesId (Text.decimal id.toNat) id :=
  names_iff_denotesId.mp (names_decimal id)

/-- The decimal numeral of an id is a segment for the node. -/
theorem addresses_decimal {id : UInt32}
    (target : r.target = String.ofList (resource.path (Text.decimal id.toNat))) :
    Addresses r resource (Text.decimal id.toNat) := by
  have digits := length_decimal_le id
  refine ⟨?_, Text.not_mem_decimal rfl _, fun _ => ?_⟩
  · obtain ⟨before, after, spelled, short, plain⟩ :=
      resource.exists_path_eq_cons (Text.decimal id.toNat)
    rw [List.all_append, Bool.and_eq_true] at plain
    rw [Request.path, target, spelled, Http.Target.path?_ofList_of_plain]
    · rfl
    · rw [List.all_append, List.all_append, plain.1, all_isPlain_decimal, plain.2]
      rfl
    · simp only [List.length_append, Http.Target.lengthLimit]
      omega
  · intro isEmpty
    have read := Text.decimalValue?_decimal id.toNat
    rw [isEmpty] at read
    contradiction

/-! ## Escaped slashes -/

/-- A segment encodes one text at most. -/
theorem Encodes.unique {text other : List Char} (encodes : Encodes segment text)
    (encodes' : Encodes segment other) : other = text := by
  have decoded := Http.Percent.decode?_eq_some_iff.mpr encodes
  rw [Http.Percent.decode?_eq_some_iff.mpr encodes'] at decoded
  exact Option.some.inj decoded

theorem encodes_self (unescaped : '%' ∉ segment) : Encodes segment segment :=
  Http.Percent.decode?_eq_some_iff.mp (Http.Percent.decode?_of_not_mem unescaped)

/-- A segment with an escaped slash has an escape. -/
theorem percent_mem_of_slash {text : List Char} (whole : '/' ∉ segment)
    (encodes : Encodes segment text) (slash : '/' ∈ text) : '%' ∈ segment := by
  by_contra unescaped
  obtain rfl := (encodes_self unescaped).unique encodes
  exact whole slash

theorem not_denotesId_of_slash {text : List Char} (encodes : Encodes segment text)
    (slash : '/' ∈ text) : ¬∃ id, DenotesId segment id := by
  rintro ⟨id, other, n, encodes', spells, -⟩
  obtain rfl := encodes'.unique encodes
  cases spells with
  | plain digits => exact not_mem_of_denotes rfl digits slash
  | signed digits =>
      rcases List.mem_cons.mp slash with isPlus | among
      · exact absurd isPlus (by decide)
      · exact not_mem_of_denotes rfl digits among

/-- An escaped slash does not cut a segment in two. -/
theorem leadsTo_iff_of_slash {text : List Char} (whole : '/' ∉ segment)
    (encodes : Encodes segment text) (slash : '/' ∈ text) (route : Route) :
    ¬LeadsTo ('/' :: segment) route ∧
      (LeadsTo (resource.path segment) route ↔ route = resource.route segment) := by
  have escaped := percent_mem_of_slash whole encodes slash
  constructor
  · intro leads
    have fixed := leads.single_mem whole
    have unescaped : ∀ s ∈ ["health", "ready", "metrics", "cluster", "nodes", "endpoints"].map
        String.toList, '%' ∉ s := by decide
    exact unescaped segment fixed escaped
  · have leads : LeadsTo (resource.path segment) (resource.route segment) := by
      cases resource with
      | member => exact .node whole (List.ne_nil_of_mem escaped)
      | endpoint => exact .endpoint whole
    exact ⟨leads.unique, fun same => same ▸ leads⟩

end

/-! ## The theorem -/

/-- A request about a node makes the call for the id that its segment denotes, and for no
other; it is declined if the segment denotes none, whatever its body is.  Segments that
denote one id are handled alike, the decimal numeral of an id denotes it, and an escaped slash
leaves a path of a node to the same route and denotes no id. -/
theorem nodes_are_addressed_by_id (site : Site) :
    (∀ r resource segment, r.isValid = true →
      r.target = String.ofList (NodeResource.path segment resource) → '/' ∉ segment →
      '?' ∉ segment → '#' ∉ segment → (resource = .member → segment ≠ []) →
      Addresses r resource segment) ∧
    (∀ r resource segment op id, Addresses r resource segment → AsksOf r resource op →
      (Makes site r (op id) ↔ DenotesId segment id)) ∧
    (∀ r segment id response, Addresses r .endpoint segment → r.method = "POST" →
      DenotesId segment id → BodyRefused r Wire.endpoint response → Declines site r response) ∧
    (∀ r resource segment, Addresses r resource segment → r.method ∈ resource.methods →
      (¬∃ id, DenotesId segment id) →
      Declines site r (.text 400 "Invalid URL") ∧
        ∀ now registry, (handle site now registry r).response.status = 400) ∧
    (∀ r target resource segment segment' id, Addresses r resource segment →
      Addresses { r with target := target } resource segment' → DenotesId segment id →
      DenotesId segment' id → ∀ now later registry,
        handle site later registry { r with target := target } = handle site now registry r) ∧
    (∀ id : UInt32, DenotesId (Text.decimal id.toNat) id ∧
      ∀ r resource, r.target = String.ofList (NodeResource.path (Text.decimal id.toNat) resource) →
        Addresses r resource (Text.decimal id.toNat)) ∧
    (∀ segment text, '/' ∉ segment → Encodes segment text → '/' ∈ text →
      (¬∃ id, DenotesId segment id) ∧ ∀ (resource : NodeResource) route,
        ¬LeadsTo ('/' :: segment) route ∧
          (LeadsTo (resource.path segment) route ↔ route = resource.route segment)) := by
  refine ⟨?target, ?made, ?bodyRefused, ?strange, ?same, ?decimal, ?slash⟩
  case target =>
    exact fun _ _ _ valid target => addresses_of_target valid target
  case made =>
    exact fun _ _ _ _ _ addresses asksOf => addresses.makes_iff site asksOf
  case bodyRefused =>
    intro r segment id response addresses method denotes body
    exact (Settled.endpointRefused addresses.leadsTo method (names_iff_denotesId.mpr denotes)
      body).declines site
  case strange =>
    intro r resource segment addresses method strange
    have declined := (addresses.settled_of_strange method strange).declines site
    refine ⟨declined, fun now registry => ?_⟩
    rw [declined.response, status_finish]
    rfl
  case same =>
    exact fun _ _ _ _ _ _ addresses addresses' denotes denotes' now later =>
      handle_of_denotesId addresses addresses' denotes denotes' site now later
  case decimal =>
    exact fun id => ⟨denotesId_decimal id, fun _ _ target => addresses_decimal target⟩
  case slash =>
    exact fun segment text whole encodes slash => ⟨not_denotesId_of_slash encodes slash,
      fun _ route => leadsTo_iff_of_slash whole encodes slash route⟩

/-- Node 7 in two spellings, an endpoint for it that is not declared to be JSON, the least
number that is no id, and an escaped slash. -/
theorem nodes_are_addressed_by_id_of_seven :
    let site : Site := ⟨"coord", false, .unassigned, .epoch⟩
    let removing (target : String) : Request := ⟨"DELETE", target, [], ""⟩
    let undeclared : Request := ⟨"POST", "/nodes/7/endpoint", [], "text"⟩
    Makes site (removing "/nodes/%2B07") (.removeNode 7) ∧
    (∀ now later registry, handle site later registry (removing "/nodes/7") =
      handle site now registry (removing "/nodes/%2B07")) ∧
    Declines site undeclared
      (.text 415 "Expected request with \x60Content-Type: application/json\x60") ∧
    Declines site (removing "/nodes/4294967296") (.text 400 "Invalid URL") ∧
    (∀ route, LeadsTo ("/nodes/".toList ++ "7%2Fendpoint".toList) route ↔
      route = .node "7%2Fendpoint".toList) := by
  intro site removing undeclared
  obtain ⟨target, made, bodyRefused, strange, same, decimal, slash⟩ :=
    nodes_are_addressed_by_id site
  have signed : Addresses (removing "/nodes/%2B07") .member "%2B07".toList :=
    target _ .member "%2B07".toList (by decide) (by decide) (by decide) (by decide) (by decide)
      fun _ => by decide
  have plain := (decimal 7).2 (removing "/nodes/7") .member (by decide)
  have endpoint := (decimal 7).2 undeclared .endpoint (by decide)
  have large : Addresses (removing "/nodes/4294967296") .member "4294967296".toList :=
    target _ .member "4294967296".toList (by decide) (by decide) (by decide) (by decide)
      (by decide) fun _ => by decide
  have denotesSigned : DenotesId "%2B07".toList 7 :=
    names_iff_denotesId.mp ⟨"+07".toList, by decide, by decide⟩
  have denotesNone : ¬∃ id, DenotesId "4294967296".toList id := by
    rintro ⟨id, denotes⟩
    obtain ⟨text, decoded, named⟩ := names_iff_denotesId.mpr denotes
    obtain rfl := (encodes_self (by decide)).unique (Http.Percent.decode?_eq_some_iff.mp decoded)
    have tooLarge : Plan.nodeId? "4294967296".toList = none := by decide
    rw [tooLarge] at named
    contradiction
  have escaped : Encodes "7%2Fendpoint".toList "7/endpoint".toList :=
    Http.Percent.decode?_eq_some_iff.mp (by decide +kernel)
  refine ⟨?_, ?_, ?_, ?_, ?_⟩
  · exact (made _ _ _ _ 7 signed (.removeNode rfl)).mpr denotesSigned
  · exact same _ _ _ _ _ 7 signed plain denotesSigned (decimal 7).1
  · exact bodyRefused _ _ 7 _ endpoint rfl (decimal 7).1 (.undeclared (by decide))
  · exact (strange _ _ _ large (by decide) denotesNone).1
  · exact fun route => ((slash _ _ (by decide) escaped (by decide)).2 .member route).2

end ControlPlane.Gateway
