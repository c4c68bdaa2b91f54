import ControlPlane.Proofs.Gateway.Client

/-!
# Statuses of responses

A gateway answers with one of seven statuses.  Only the commands of the registry,
which are sent with POST or DELETE, change it, and only those that are answered
with success; whoever is refused finds the registry as it was.  A refusal by the
registry, or of a text that is no address, shows its kind and its wording, and the
kind decides the status.
-/

namespace ControlPlane

open ControlPlane.Http (Request Response)
open ControlPlane.Time (Instant)

/-! ## Errors -/

namespace Error

/-- The status of an error is a status code, so no other one stands in for it. -/
theorem statusCode?_status (e : Error) : Http.statusCode? e.status = some e.status := by
  cases e <;> rfl

theorem status_eq_or_eq (e : Error) : e.status = 404 ∨ e.status = 400 := by
  cases e <;> simp [status, kind, ErrorKind.status]

/-- What is not found has a status of its own. -/
theorem status_eq_notFound_iff (e : Error) : e.status = 404 ↔ e.kind.label = "not_found" := by
  cases e <;> simp [status, kind, ErrorKind.status, ErrorKind.label]

theorem status_eq_badRequest_iff (e : Error) : e.status = 400 ↔ e.kind.label ≠ "not_found" := by
  cases e <;> simp [status, kind, ErrorKind.status, ErrorKind.label]

end Error

namespace Gateway

theorem status_ofError (e : Error) : (Reply.ofError e).response.status = e.status := by
  change (Http.statusCode? e.status).getD 500 = e.status
  rw [e.statusCode?_status, Option.getD_some]

/-! ## Replies -/

/-- How a response shows the result of an operation. -/
inductive Verdict (op : Operation) (result : Except Error op.call.Answer)
    (response : Response) : Prop
  | granted {answer : op.call.Answer} (succeeded : result = .ok answer)
      (status : response.status = 200 ∨ response.status = 201)
  | refused {e : Error} (failed : result = .error e)
      (shown : response = (Reply.ofError e).response)
  /-- A cluster is held, but the text of a page is no address. -/
  | strange {address : String} {e : Error} (page : op = .showPage address)
      (malformed : Address.ofText address = .error e)
      (shown : response = (Reply.ofError e).response)

theorem verdict_ofResult (site : Site) (now : Instant) (op : Operation)
    (result : Except Error op.call.Answer) :
    Verdict op result (Reply.ofResult site now op result).response := by
  cases result with
  | error e => exact .refused rfl rfl
  | ok answer =>
      cases op with
      | createCluster | registerEndpoint => exact .granted rfl (.inr rfl)
      | health | metrics | showCluster | destroyCluster | listNodes | addNode | showNode
      | removeNode | showEndpoint | listEndpoints => exact .granted rfl (.inl rfl)
      | showPage address =>
          change Verdict _ _ (Reply.ofPage site address).response
          unfold Reply.ofPage
          cases read : Address.ofText address with
          | ok a => exact .granted rfl (.inl rfl)
          | error e => exact .strange rfl read rfl

/-! ## Finished responses -/

theorem body_eq_of_body_finish {site : Site} {method : Http.Method} {response : Response}
    {value : Json.Value} (shown : (finish site method response).body = .json value) :
    response.body = .json value := by
  rw [body_finish] at shown
  split at shown
  · contradiction
  · exact shown

/-! ## Requests -/

section

variable {r : Request}

/-- A body that carries no value is refused without a value. -/
theorem BodyRefused.plain {α : Type} {decode : Json.Decoder α} {response : Response}
    (refused : BodyRefused r decode response) :
    response.status ∈ [400, 415, 422] ∧ ∀ value, response.body ≠ .json value := by
  cases refused with
  | undeclared | malformed | misfit => simp [Response.text]

/-- A request that asks for nothing is granted, or refused without a value. -/
theorem Settled.plain {response : Response} (settled : Settled r response) :
    response.status = 200 ∨
      response.status ∈ [400, 404, 405, 415, 422] ∧ ∀ value, response.body ≠ .json value := by
  cases settled with
  | optionsOfNothing | options | ready => exact .inl rfl
  | notFound | notServed | strangeNode | strangeEndpoint | strangePage =>
      right
      simp [Response.empty, Response.withFields, Response.text]
  | clusterRefused _ _ body | nodeRefused _ _ body | endpointRefused _ _ _ body =>
      right
      obtain ⟨status, noValue⟩ := body.plain
      refine ⟨?_, noValue⟩
      simp only [List.mem_cons, List.not_mem_nil, or_false] at status ⊢
      omega

/-- Commands are sent with POST or DELETE. -/
theorem Asks.method_of_command {op : Operation} {call : Call} (asks : Asks r op call)
    (command : call.isQuery = false) : r.method = "POST" ∨ r.method = "DELETE" := by
  cases asks with
  | createCluster _ method | addNode _ method | registerEndpoint _ method =>
      exact .inl method
  | destroyCluster _ method | removeNode _ method => exact .inr method
  | health | metrics | showCluster | listNodes | showNode | showEndpoint | listEndpoints
  | showPage => contradiction

end

/-! ## One request -/

/-- The statuses of responses. -/
def statuses : List Nat :=
  [200, 201, 400, 404, 405, 415, 422]

/-- Why a request that is made at `now` is refused: the call that it asks for
fails, or the text of the page that it asks for is no address. -/
inductive Cause (now : Instant) (registry : Registry) (r : Request) (e : Error) : Prop
  | call {op : Operation} {call : Call} (asks : Asks r op call)
      (failed : (registry.run now call).answer = .error e)
  | address {text : String} {call : Call} (asks : Asks r (.showPage text) call)
      (malformed : Address.ofText text = .error e)

/-- What a request that is made at `now` does to the registry, and how it is
answered. -/
structure Orderly (now : Instant) (r : Request) (before after : Registry)
    (response : Response) : Prop where
  status_mem : response.status ∈ statuses
  /-- Only a command that is granted changes anything. -/
  change : after ≠ before →
    (r.method = "POST" ∨ r.method = "DELETE") ∧ (response.status = 200 ∨ response.status = 201)
  unchanged_of_method : r.method ≠ "POST" → r.method ≠ "DELETE" → after = before
  unchanged_of_refusal : 400 ≤ response.status → after = before
  /-- A refusal that has a value shows the kind and the wording of its cause. -/
  refusal : ∀ value, 400 ≤ response.status → response.body = .json value →
    ∃ e, Cause now before r e ∧
      value = .object [("error", .text e.kind.label), ("message", .text e.message)] ∧
      response.status = e.status ∧
      (response.status = 404 ↔ e.kind.label = "not_found") ∧
      (response.status = 400 ↔ e.kind.label ≠ "not_found")

/-- It is enough to know when something changes and which statuses there are. -/
theorem Orderly.of_change {now : Instant} {r : Request} {before after : Registry}
    {response : Response} (status_mem : response.status ∈ statuses)
    (change : after ≠ before → (r.method = "POST" ∨ r.method = "DELETE") ∧
      (response.status = 200 ∨ response.status = 201))
    (refusal : ∀ value, 400 ≤ response.status → response.body = .json value →
      ∃ e, Cause now before r e ∧
        value = .object [("error", .text e.kind.label), ("message", .text e.message)] ∧
        response.status = e.status) :
    Orderly now r before after response where
  status_mem := status_mem
  change := change
  unchanged_of_method notPost notDelete := by
    by_contra changed
    rcases (change changed).1 with isPost | isDelete
    · exact notPost isPost
    · exact notDelete isDelete
  unchanged_of_refusal refused := by
    by_contra changed
    rcases (change changed).2 with ok | created
    · omega
    · omega
  refusal value refused shown := by
    obtain ⟨e, cause, value_eq, status_eq⟩ := refusal value refused shown
    refine ⟨e, cause, value_eq, status_eq, ?_, ?_⟩
    · rw [status_eq]
      exact e.status_eq_notFound_iff
    · rw [status_eq]
      exact e.status_eq_badRequest_iff

section

variable (site : Site) (now : Instant) (registry : Registry) {r : Request}

theorem orderly_of_settled {response : Response} (settled : Settled r response) :
    Orderly now r registry (handle site now registry r).registry
      (handle site now registry r).response := by
  obtain ⟨response_eq, registry_eq⟩ := handle_of_settled site now registry settled
  rw [response_eq, registry_eq]
  apply Orderly.of_change
  · rw [status_finish]
    rcases settled.plain with granted | ⟨status, -⟩
    · rw [granted]
      decide
    · exact List.mem_cons_of_mem 200 (List.mem_cons_of_mem 201 status)
  · intro changed
    exact absurd rfl changed
  · intro value refused shown
    rw [status_finish] at refused
    rcases settled.plain with granted | ⟨-, noValue⟩
    · omega
    · exact absurd (body_eq_of_body_finish shown) (noValue value)

/-- An error that is shown is the cause of the refusal. -/
theorem orderly_of_error {e : Error} {response : Response} (cause : Cause now registry r e)
    (shown : response = (Reply.ofError e).response) :
    Orderly now r registry registry (finish site (.ofName r.method) response) := by
  have status : (finish site (.ofName r.method) response).status = e.status := by
    rw [status_finish, shown, status_ofError]
  apply Orderly.of_change
  · rw [status]
    rcases e.status_eq_or_eq with notFound | badRequest
    · rw [notFound]
      decide
    · rw [badRequest]
      decide
  · intro changed
    exact absurd rfl changed
  · intro value _ visible
    have body := body_eq_of_body_finish visible
    rw [shown] at body
    exact ⟨e, cause, (Http.Body.json.inj body).symm, status⟩

theorem orderly_of_asks {op : Operation} {call : Call} (asks : Asks r op call) :
    Orderly now r registry (handle site now registry r).registry
      (handle site now registry r).response := by
  obtain ⟨response_eq, registry_eq⟩ := handle_of_asks site now registry asks
  obtain rfl := asks.call_eq
  rw [response_eq, registry_eq]
  rcases verdict_ofResult site now op (registry.run now op.call).answer with
    ⟨succeeded, status⟩ | ⟨failed, shown⟩ | ⟨page, malformed, shown⟩
  · apply Orderly.of_change
    · rw [status_finish]
      rcases status with ok | created
      · rw [ok]
        decide
      · rw [created]
        decide
    · intro changed
      have command : op.call.isQuery = false := by
        by_contra query
        exact changed (Registry.registry_of_query (by simpa using query))
      rw [status_finish]
      exact ⟨asks.method_of_command command, status⟩
    · intro value refused
      rw [status_finish] at refused
      omega
  · rw [Registry.registry_of_failed failed]
    exact orderly_of_error site now registry (.call asks failed) shown
  · subst page
    have unchanged : (registry.run now .ensure).registry = registry := rfl
    rw [unchanged]
    exact orderly_of_error site now registry (.address asks malformed) shown

/-- Every request is handled in an orderly way. -/
theorem orderly_handle (r : Request) :
    Orderly now r registry (handle site now registry r).registry
      (handle site now registry r).response := by
  rcases asks_or_settled r with ⟨op, call, asks⟩ | ⟨response, settled⟩
  · exact orderly_of_asks site now registry asks
  · exact orderly_of_settled site now registry settled

end

/-! ## Sequences of requests -/

/-- Every request of a sequence is handled in an orderly way, in the registry that
the requests before it lead to; and the status of every error is a status code, so
that the status for failures that have none is never used. -/
theorem handleAll_orderly (site : Site) (registry : Registry)
    (before : List (Instant × Request)) (now : Instant) (r : Request)
    (after : List (Instant × Request)) :
    (∃ response,
      (handleAll site registry (before ++ (now, r) :: after)).1[before.length]? = some response ∧
      Orderly now r (handleAll site registry before).2
        (handleAll site registry (before ++ [(now, r)])).2 response) ∧
      ∀ e : Error, Http.statusCode? e.status = some e.status ∧
        (Reply.ofError e).response.status = e.status := by
  constructor
  · refine ⟨_, response_handleAll site registry before now r after, ?_⟩
    rw [registry_handleAll_concat, registry_handleAll]
    exact orderly_handle site now (registry.runAll (callsOf before)) r
  · intro e
    exact ⟨e.statusCode?_status, status_ofError e⟩

end Gateway

end ControlPlane
