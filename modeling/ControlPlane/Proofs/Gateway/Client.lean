import ControlPlane.Proofs.Gateway.Front
import ControlPlane.Proofs.Http.Plain
import ControlPlane.Proofs.Text.Basic

/-!
# Requests that clients make

A client reads a target or sends a value to it as JSON.  A node is named in a
target by its id in decimal, which is read back as the id.
-/

namespace ControlPlane.Gateway

open ControlPlane.Http (Request Response)
open ControlPlane.Http.Target (isPlain)
open ControlPlane.Json (Decoder Value)
open ControlPlane.Time (Instant)

/-! ## Requests -/

/-- The request to read a target. -/
def reading (target : String) : Request where
  method := "GET"
  target
  fields := []
  body := ""

/-- The request that sends a value to a target. -/
def sending (target : String) (value : Value) : Request where
  method := "POST"
  target
  fields := [("content-type", "application/json")]
  body := value.render

theorem isValid_sending {target : String} {value : Value} {path : List Char}
    (found : Http.Target.path? target = some path) : (sending target value).isValid = true := by
  have method : Http.isToken "POST" = true := by decide
  have field : Http.isToken "content-type" = true := by decide
  have mediaType : Http.isFieldValue "application/json" = true := by decide
  simp [Request.isValid, sending, found, method, field, mediaType]

/-- A value that is sent is carried as JSON. -/
theorem carries_sending {α : Type} {decode : Decoder α} {target : String} {value : Value} {a : α}
    (read : Decoder.ofText decode value.render = .ok a) :
    Carries (sending target value) decode a := by
  have json : Http.MediaType.isJson "application/json" = true := by decide
  exact ⟨json, read⟩

/-! ## Ids in targets -/

/-- The digits of a number mean nothing in a target. -/
theorem isPlain_of_mem_decimal {n : Nat} {c : Char} (cMem : c ∈ Text.decimal n) :
    isPlain c = true := by
  obtain ⟨d, small, rfl⟩ := Text.exists_digit_of_mem_decimal cMem
  have all : ∀ d < 10, isPlain (Nat.digitChar d) = true := by decide
  exact all d small

theorem all_isPlain_decimal (n : Nat) : (Text.decimal n).all isPlain = true :=
  List.all_eq_true.mpr fun _ cMem => isPlain_of_mem_decimal cMem

theorem length_decimal_le (id : UInt32) : (Text.decimal id.toNat).length ≤ 10 :=
  (Nat.length_toDigits_le_iff (by decide) (by decide)).mpr
    (Nat.lt_trans id.toNat_lt (by decide))

/-- An id in decimal is read back. -/
theorem nodeId?_decimal (id : UInt32) : Plan.nodeId? (Text.decimal id.toNat) = some id := by
  unfold Plan.nodeId?
  have small : id.toNat < UInt32.size := id.toNat_lt
  split
  · next rest signed =>
      have plus : '+' ∈ Text.decimal id.toNat := by
        rw [signed]
        exact List.mem_cons_self
      exact absurd plus (Text.not_mem_decimal rfl _)
  · simp only [Text.decimalValue?_decimal, if_pos small, UInt32.ofNat_toNat]

theorem names_decimal (id : UInt32) : Names (Text.decimal id.toNat) id := by
  refine ⟨Text.decimal id.toNat, ?_, nodeId?_decimal id⟩
  exact Http.Percent.decode?_of_not_mem (Text.not_mem_decimal rfl _)

/-- The target of the endpoint of a node, which is named by a key. -/
def endpointTarget (key : String) : String :=
  "/nodes/" ++ key ++ "/endpoint"

theorem path?_endpointTarget (id : UInt32) :
    Http.Target.path? (endpointTarget (Text.decimalText id.toNat)) =
      some ("/nodes/".toList ++ Text.decimal id.toNat ++ "/endpoint".toList) := by
  have digits := length_decimal_le id
  have spelled : endpointTarget (Text.decimalText id.toNat) =
      String.ofList ('/' :: ("nodes/".toList ++ Text.decimal id.toNat ++ "/endpoint".toList)) := by
    apply String.toList_injective
    simp [endpointTarget, Text.decimalText]
  have plain : ("nodes/".toList ++ Text.decimal id.toNat ++ "/endpoint".toList).all isPlain =
      true := by
    rw [List.all_append, List.all_append, all_isPlain_decimal]
    decide
  rw [spelled, Http.Target.path?_ofList_of_plain plain]
  · rfl
  · simp [Http.Target.lengthLimit]
    omega

theorem leadsTo_endpointTarget (id : UInt32) (value : Value) :
    LeadsTo (sending (endpointTarget (Text.decimalText id.toNat)) value).path
      (.endpoint (Text.decimal id.toNat)) := by
  have path : (sending (endpointTarget (Text.decimalText id.toNat)) value).path =
      "/nodes/".toList ++ Text.decimal id.toNat ++ "/endpoint".toList := by
    rw [Request.path, sending, path?_endpointTarget]
    rfl
  rw [path]
  exact .endpoint (Text.not_mem_decimal rfl _)

/-! ## Finished responses -/

@[simp]
theorem status_finish (site : Site) (method : Http.Method) (response : Response) :
    (finish site method response).status = response.status := by
  unfold finish
  split <;> rfl

theorem body_finish (site : Site) (method : Http.Method) (response : Response) :
    (finish site method response).body = if method = .head then .empty else response.body := by
  unfold finish
  split <;> rfl

end ControlPlane.Gateway
