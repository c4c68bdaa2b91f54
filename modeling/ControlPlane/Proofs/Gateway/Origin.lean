import ControlPlane.Proofs.Gateway.Client

/-!
# Pages of other origins

Only the last touch that a gateway gives to a response is about pages of other origins.
So whether a response has fields about them does not depend on which request it answers
and how: a gateway that is open to them says so in every response, and one that is not
never mentions them.
-/

namespace ControlPlane.Gateway

open ControlPlane.Http (Request Response)
open ControlPlane.Json (Value)
open ControlPlane.Time (Instant)

/-! ## Fields about other origins -/

/-- Is a header field one about other origins? -/
def isCorsField (field : String × String) : Bool :=
  "access-control-".toList.isPrefixOf field.1.toList

/-- No field of a response is about other origins. -/
def Local (response : Response) : Prop :=
  ∀ field ∈ response.fields, isCorsField field = false

theorem local_empty (status : Nat) : Local (.empty status) := by
  simp [Local, Response.empty]

theorem local_json (status : Nat) (value : Value) : Local (.json status value) := by
  intro field fieldMem
  obtain rfl := List.mem_singleton.mp fieldMem
  decide

theorem local_text (status : Nat) (content : String) : Local (.text status content) := by
  intro field fieldMem
  obtain rfl := List.mem_singleton.mp fieldMem
  decide

theorem isCorsField_allow (allow : String) : isCorsField ("allow", allow) = false := by
  change "access-control-".toList.isPrefixOf "allow".toList = false
  decide

theorem Local.withAllow {response : Response} (near : Local response) (allow : String) :
    Local (response.withFields [("allow", allow)]) := by
  intro field fieldMem
  rcases List.mem_append.mp fieldMem with own | added
  · exact near field own
  · rw [List.mem_singleton.mp added]
    exact isCorsField_allow allow

theorem local_ofSettled {r : Request} {response : Response} (settled : Settled r response) :
    Local response := by
  cases settled with
  | notFound | optionsOfNothing => exact local_empty _
  | options | notServed => exact (local_empty _).withAllow _
  | ready => exact local_json _ _
  | strangeNode | strangeEndpoint | strangePage => exact local_text _ _
  | clusterRefused _ _ body | nodeRefused _ _ body | endpointRefused _ _ _ body =>
      cases body <;> exact local_text _ _

theorem local_ofResult (site : Site) (now : Instant) (op : Operation)
    (result : Except Error op.call.Answer) :
    Local (Reply.ofResult site now op result).response := by
  cases result with
  | error e => exact local_json _ _
  | ok answer =>
      cases op with
      | showPage address =>
          change Local (Reply.ofPage site address).response
          unfold Reply.ofPage
          cases Address.ofText address <;> exact local_json _ _
      | health | metrics | showCluster | createCluster | destroyCluster | listNodes | addNode
      | showNode | removeNode | showEndpoint | registerEndpoint | listEndpoints =>
          exact local_json _ _

/-! ## Finished responses -/

section

variable (site : Site) (method : Http.Method) {response : Response}

theorem fields_finish :
    (finish site method response).fields =
      response.fields ++ vary :: corsFields site.corsPermissive method := by
  unfold finish
  split <;> rfl

theorem isCorsField_of_mem_corsFields {permissive : Bool} {field : String × String}
    (fieldMem : field ∈ corsFields permissive method) : isCorsField field = true := by
  unfold corsFields at fieldMem
  split at fieldMem
  · contradiction
  · split at fieldMem <;> simp only [List.mem_cons, List.not_mem_nil, or_false] at fieldMem
    · rcases fieldMem with rfl | rfl | rfl <;> decide
    · rcases fieldMem with rfl | rfl <;> decide

/-- Without the fields about other origins, a finished response has its own fields and
the one that tells what it depends on. -/
theorem filter_fields_finish (near : Local response) :
    (finish site method response).fields.filter (!isCorsField ·) = response.fields ++ [vary] := by
  have own : response.fields.filter (!isCorsField ·) = response.fields := by
    apply List.filter_eq_self.mpr
    intro field fieldMem
    simp [near field fieldMem]
  have others : (corsFields site.corsPermissive method).filter (!isCorsField ·) = [] := by
    apply List.filter_eq_nil_iff.mpr
    intro field fieldMem
    simp [isCorsField_of_mem_corsFields method fieldMem]
  have isOwn : isCorsField vary = false := by decide
  rw [fields_finish, List.filter_append, own, List.filter_cons, others]
  simp [isOwn]

/-- A gateway that is for its own pages only says nothing about other origins. -/
theorem local_finish (closed : site.corsPermissive = false) (near : Local response) :
    Local (finish site method response) := by
  intro field fieldMem
  rw [fields_finish, closed] at fieldMem
  rcases List.mem_append.mp fieldMem with own | added
  · exact near field own
  · obtain rfl := List.mem_singleton.mp added
    decide

/-- A gateway for pages of any origin says so in every response. -/
theorem allowOrigin_mem_finish (opened : site.corsPermissive = true) :
    ("access-control-allow-origin", "*") ∈ (finish site method response).fields := by
  rw [fields_finish, opened]
  apply List.mem_append_right
  apply List.mem_cons_of_mem
  unfold corsFields
  by_cases isOptions : method = .options
  · simp [isOptions]
  · simp [isOptions]

end

/-! ## Handled requests -/

/-- Before it is finished, no response has fields about other origins. -/
theorem handle_of_local (site : Site) (now : Instant) (registry : Registry) (r : Request) :
    ∃ response, Local response ∧
      (handle site now registry r).response = finish site (.ofName r.method) response := by
  rcases asks_or_settled r with ⟨op, call, asks⟩ | ⟨response, settled⟩
  · exact ⟨_, local_ofResult site now op _, (handle_of_asks site now registry asks).1⟩
  · exact ⟨response, local_ofSettled settled, (handle_of_settled site now registry settled).1⟩

end ControlPlane.Gateway
