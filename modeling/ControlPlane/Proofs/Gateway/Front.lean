import ControlPlane.Gateway.Basic
import ControlPlane.Proofs.Gateway.Table
import ControlPlane.Proofs.Registry.Step

/-!
# The gateway as a front of the registry

Handling a request is making the call that it asks for, if it asks for one.  A
sequence of requests therefore does to a registry what the sequence of their
calls does, and each response is that of its request in the registry that the
calls before it lead to.
-/

namespace ControlPlane.Gateway

open ControlPlane.Http (Request Response)
open ControlPlane.Time (Instant)

/-! ## Calls of requests -/

/-- The call that a request asks for, if it asks for one. -/
def callOf? (r : Request) : Option Call :=
  match Plan.ofRequest r with
  | .fixed _ => none
  | .perform op => some op.call

/-- The calls that requests ask for, each at the instant of its request. -/
def callsOf (requests : List (Instant × Request)) : List (Instant × Call) :=
  requests.filterMap fun (now, r) => (callOf? r).map fun call => (now, call)

theorem callOf?_eq_some_iff {r : Request} {call : Call} :
    callOf? r = some call ↔ ∃ op, Asks r op call := by
  unfold callOf?
  constructor
  · intro found
    cases planned : Plan.ofRequest r with
    | fixed response => simp [planned] at found
    | perform op =>
        rw [planned] at found
        exact ⟨op, asks_iff.mpr ⟨planned, (Option.some.inj found).symm⟩⟩
  · rintro ⟨op, asks⟩
    rw [asks.ofRequest_eq]
    exact congrArg some asks.call_eq

theorem callOf?_eq_none_iff {r : Request} :
    callOf? r = none ↔ ∃ response, Settled r response := by
  unfold callOf?
  constructor
  · intro absent
    cases planned : Plan.ofRequest r with
    | fixed response => exact ⟨response, settled_iff.mpr planned⟩
    | perform op => simp [planned] at absent
  · rintro ⟨response, settled⟩
    rw [settled.ofRequest_eq]

theorem callsOf_cons_of_settled {r : Request} {response : Response}
    (settled : Settled r response) (now : Instant) (rest : List (Instant × Request)) :
    callsOf ((now, r) :: rest) = callsOf rest := by
  have absent : callOf? r = none := callOf?_eq_none_iff.mpr ⟨response, settled⟩
  simp [callsOf, absent]

theorem callsOf_cons_of_asks {r : Request} {op : Operation} {call : Call}
    (asks : Asks r op call) (now : Instant) (rest : List (Instant × Request)) :
    callsOf ((now, r) :: rest) = (now, call) :: callsOf rest := by
  have found : callOf? r = some call := callOf?_eq_some_iff.mpr ⟨op, asks⟩
  simp [callsOf, found]

/-! ## One request -/

section

variable (site : Site) (now : Instant) (registry : Registry) {r : Request}

/-- A settled request is answered as settled, whatever the registry holds, and
the registry stays as it is. -/
theorem handle_of_settled {response : Response} (settled : Settled r response) :
    (handle site now registry r).response = finish site (.ofName r.method) response ∧
      (handle site now registry r).registry = registry := by
  unfold handle
  rw [settled.ofRequest_eq]
  exact ⟨rfl, rfl⟩

/-- A request that asks for a call is answered by showing the answer of the call,
and the registry is the one after the call. -/
theorem handle_of_asks {op : Operation} {call : Call} (asks : Asks r op call) :
    (handle site now registry r).response =
        finish site (.ofName r.method)
          (Reply.ofResult site now op (registry.run now op.call).answer).response ∧
      (handle site now registry r).registry = (registry.run now call).registry := by
  unfold handle
  rw [asks.ofRequest_eq, ← asks.call_eq]
  exact ⟨rfl, rfl⟩

/-- A page is looked up once it is known that a cluster is held and that the text
is an address. -/
theorem handle_of_asks_showPage {address : String} {call : Call}
    (asks : Asks r (.showPage address) call) :
    (handle site now registry r).response =
      finish site (.ofName r.method)
        (match registry.ensure, Address.ofText address with
          | .error e, _ => (Reply.ofError e).response
          | .ok (), .error e => (Reply.ofError e).response
          | .ok (), .ok a => .json 200 (Wire.pageInfoValue (site.pages a))) := by
  rw [(handle_of_asks site now registry asks).1]
  change finish site _ (Reply.ofResult site now (.showPage address) registry.ensure).response = _
  cases registry.ensure with
  | error e => rfl
  | ok _ =>
      change finish site _ (Reply.ofPage site address).response = _
      unfold Reply.ofPage
      cases Address.ofText address <;> rfl

/-- One request does to the registry what its calls do. -/
theorem registry_handle (r : Request) (rest : List (Instant × Request)) :
    (handle site now registry r).registry.runAll (callsOf rest) =
      registry.runAll (callsOf ((now, r) :: rest)) := by
  rcases asks_or_settled r with ⟨op, call, asks⟩ | ⟨response, settled⟩
  · rw [(handle_of_asks site now registry asks).2, callsOf_cons_of_asks asks,
      Registry.runAll_cons]
  · rw [(handle_of_settled site now registry settled).2, callsOf_cons_of_settled settled]

end

/-- A request makes the call of an operation, and its response shows what the call
answers. -/
structure Makes (site : Site) (r : Request) (op : Operation) : Prop where
  call : callOf? r = some op.call
  registry : ∀ now before,
    (handle site now before r).registry = (before.run now op.call).registry
  response : ∀ now before, (handle site now before r).response =
    finish site (.ofName r.method)
      (Reply.ofResult site now op (before.run now op.call).answer).response

/-- A request makes no call, and its response is the same whatever the registry holds. -/
structure Declines (site : Site) (r : Request) (response : Response) : Prop where
  call : callOf? r = none
  registry : ∀ now before, (handle site now before r).registry = before
  response : ∀ now before,
    (handle site now before r).response = finish site (.ofName r.method) response

theorem Asks.makes (site : Site) {r : Request} {op : Operation} {call : Call}
    (asks : Asks r op call) : Makes site r op := by
  obtain rfl := asks.call_eq
  exact ⟨callOf?_eq_some_iff.mpr ⟨op, asks⟩,
    fun now before => (handle_of_asks site now before asks).2,
    fun now before => (handle_of_asks site now before asks).1⟩

theorem Settled.declines (site : Site) {r : Request} {response : Response}
    (settled : Settled r response) : Declines site r response :=
  ⟨callOf?_eq_none_iff.mpr ⟨response, settled⟩,
    fun now before => (handle_of_settled site now before settled).2,
    fun now before => (handle_of_settled site now before settled).1⟩

/-! ## Sequences of requests -/

section

variable (site : Site)

/-- A sequence of requests does to the registry what their calls do. -/
theorem registry_handleAll (registry : Registry) (requests : List (Instant × Request)) :
    (handleAll site registry requests).2 = registry.runAll (callsOf requests) := by
  induction requests generalizing registry with
  | nil => rfl
  | cons first rest ih =>
      obtain ⟨now, r⟩ := first
      calc
        (handleAll site registry ((now, r) :: rest)).2
            = (handleAll site (handle site now registry r).registry rest).2 := rfl
        _ = (handle site now registry r).registry.runAll (callsOf rest) := ih _
        _ = registry.runAll (callsOf ((now, r) :: rest)) :=
              registry_handle site now registry r rest

/-- Each request is answered in the registry that the calls of the requests
before it lead to. -/
theorem response_handleAll (registry : Registry) (before : List (Instant × Request))
    (now : Instant) (r : Request) (after : List (Instant × Request)) :
    (handleAll site registry (before ++ (now, r) :: after)).1[before.length]? =
      some (handle site now (registry.runAll (callsOf before)) r).response := by
  induction before generalizing registry with
  | nil => rfl
  | cons first rest ih =>
      obtain ⟨earlier, q⟩ := first
      rw [← registry_handle site earlier registry q rest]
      exact ih (handle site earlier registry q).registry

/-- The first request is handled, and the others in the registry that it leaves. -/
theorem handleAll_cons_of_left {registry next : Registry} {now : Instant} {r : Request}
    (left : (handle site now registry r).registry = next) (rest : List (Instant × Request)) :
    handleAll site registry ((now, r) :: rest) =
      ((handle site now registry r).response :: (handleAll site next rest).1,
        (handleAll site next rest).2) := by
  rw [← left]
  rfl

/-- One more request is handled in the registry that those before it lead to. -/
theorem registry_handleAll_concat (registry : Registry) (before : List (Instant × Request))
    (now : Instant) (r : Request) :
    (handleAll site registry (before ++ [(now, r)])).2 =
      (handle site now (handleAll site registry before).2 r).registry := by
  induction before generalizing registry with
  | nil => rfl
  | cons first rest ih =>
      obtain ⟨earlier, q⟩ := first
      exact ih (handle site earlier registry q).registry

/-- Every request is answered, once. -/
theorem length_handleAll (registry : Registry) (requests : List (Instant × Request)) :
    (handleAll site registry requests).1.length = requests.length := by
  induction requests generalizing registry with
  | nil => rfl
  | cons first rest ih =>
      obtain ⟨now, r⟩ := first
      exact congrArg (· + 1) (ih (handle site now registry r).registry)

end

/-! ## The front -/

/-- A request by itself is in one of two cases.  Either its response is settled,
the same for every registry, and the registry stays as it is; or it asks for one
call, the registry afterwards is the one after the call, and the response shows
what the call answered.  So a sequence of requests leads to the registry that
the sequence of their calls leads to. -/
theorem handleAll_fronts_registry (site : Site) :
    (∀ r : Request,
      (∃ response, Settled r response ∧ (∀ other, Settled r other → other = response) ∧
        (∀ op call, ¬Asks r op call) ∧ callOf? r = none) ∨
      (∃ op call, Asks r op call ∧
        (∀ op' call', Asks r op' call' → op' = op ∧ call' = call) ∧
        (∀ response, ¬Settled r response) ∧ callOf? r = some call)) ∧
    (∀ r response, Settled r response → ∀ now registry,
      (handle site now registry r).response = finish site (.ofName r.method) response ∧
      (handle site now registry r).registry = registry) ∧
    (∀ r op call, Asks r op call → ∀ now registry, op.call = call ∧
      (handle site now registry r).response =
        finish site (.ofName r.method)
          (Reply.ofResult site now op (registry.run now op.call).answer).response ∧
      (handle site now registry r).registry = (registry.run now call).registry) ∧
    (∀ r address call, Asks r (.showPage address) call → ∀ now registry,
      (handle site now registry r).response =
        finish site (.ofName r.method)
          (match registry.ensure, Address.ofText address with
            | .error e, _ => (Reply.ofError e).response
            | .ok (), .error e => (Reply.ofError e).response
            | .ok (), .ok a => .json 200 (Wire.pageInfoValue (site.pages a)))) ∧
    (∀ registry requests,
      (handleAll site registry requests).1.length = requests.length ∧
      (handleAll site registry requests).2 = registry.runAll (callsOf requests)) ∧
    (∀ registry before now r after,
      (handleAll site registry (before ++ (now, r) :: after)).1[before.length]? =
        some (handle site now (registry.runAll (callsOf before)) r).response) := by
  refine ⟨?cases, ?settled, ?asked, ?pages, ?runs, ?responses⟩
  case cases =>
    intro r
    rcases asks_or_settled r with ⟨op, call, asks⟩ | ⟨response, settled⟩
    · refine .inr ⟨op, call, asks, ?_, ?_, callOf?_eq_some_iff.mpr ⟨op, asks⟩⟩
      · intro op' call' asks'
        exact asks'.unique asks
      · intro response settled
        exact asks.not_settled settled
    · refine .inl ⟨response, settled, ?_, ?_, callOf?_eq_none_iff.mpr ⟨response, settled⟩⟩
      · intro other settled'
        exact settled'.unique settled
      · intro op call asks
        exact asks.not_settled settled
  case settled =>
    intro r response settled now registry
    exact handle_of_settled site now registry settled
  case asked =>
    intro r op call asks now registry
    exact ⟨asks.call_eq, handle_of_asks site now registry asks⟩
  case pages =>
    intro r address call asks now registry
    exact handle_of_asks_showPage site now registry asks
  case runs =>
    intro registry requests
    exact ⟨length_handleAll site registry requests, registry_handleAll site registry requests⟩
  case responses =>
    intro registry before now r after
    exact response_handleAll site registry before now r after

end ControlPlane.Gateway
