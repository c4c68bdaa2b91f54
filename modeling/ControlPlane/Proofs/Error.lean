import ControlPlane.Proofs.Page.Sorting
import ControlPlane.Proofs.Registry.Step
import ControlPlane.Proofs.Text.Quoted

/-!
# Errors and their wording

The registry and the reader of addresses lead to six sorts of errors.  Of these, kind and
wording tell which error it was: the cluster or the node that it names, or the text that was
taken for an address.  That text is quoted, so that no text can pass for another one, end
the quotation or bring a control character into the message.
-/

namespace ControlPlane

open ControlPlane.Time (Instant)

namespace Error

/-- The errors that calls and addresses lead to. -/
inductive Reported : Error → Prop
  | alreadyExists (name : String) : Reported (.alreadyExists name)
  | duplicateNode (id : UInt32) : Reported (.duplicateNode id)
  | clusterNotFound : Reported .clusterNotFound
  | nodeNotFound (id : UInt32) : Reported (.nodeNotFound id)
  | endpointNotFound (id : UInt32) : Reported (.endpointNotFound id)
  | malformedAddress {text : String} (refused : ¬Address.IsAccepted text) :
      Reported (.malformedAddress text)

/-! ## Where errors come from -/

theorem reported_of_refused {held : Option Cluster} {call : Call} {e : Error}
    (reason : Refused held call e) : Reported e := by
  cases reason with
  | occupied => exact .alreadyExists _
  | repeated => exact .duplicateNode _
  | vacant => exact .clusterNotFound
  | taken => exact .duplicateNode _
  | stranger => exact .nodeNotFound _
  | unregistered => exact .endpointNotFound _

/-- A call made after other calls fails with an error. -/
def IsAnswered (e : Error) : Prop :=
  ∃ calls now call, ((Registry.empty.runAll calls).run now call).answer = .error e

/-- A node with nothing but an id. -/
private def bare (id : UInt32) : NodeSpec where
  nodeId := id
  hostname := ""
  ipAddress := ""
  rdmaGid := none
  cpuCount := 0
  memoryMb := 0
  status := none
  endpoint := none

/-- The cluster with one bare node. -/
private def single (id : UInt32) : Cluster :=
  (Cluster.new "" .epoch).enroll .epoch (bare id)

private theorem isAnswered_endpointNotFound (id : UInt32) : IsAnswered (.endpointNotFound id) := by
  have present : (single id).hasMember id = true :=
    (Cluster.hasMember_enroll_iff .epoch _ (bare id)).mpr (.inl rfl)
  have silent : (single id).endpoints.contains id = false := by
    rw [IdMap.contains_eq_false_iff]
    rfl
  exact ⟨[(.epoch, .create "" [bare id])], .epoch, .endpoint id,
    Refused.answer_eq (.unregistered present silent)⟩

private theorem isAnswered_duplicateNode (id : UInt32) : IsAnswered (.duplicateNode id) := by
  have present : (single id).hasMember id = true :=
    (Cluster.hasMember_enroll_iff .epoch _ (bare id)).mpr (.inl rfl)
  exact ⟨[(.epoch, .create "" [bare id])], .epoch, .add (bare id),
    Refused.answer_eq (.taken present)⟩

/-- The errors that are reported are those of calls, after any calls, and those of texts that
are read as addresses. -/
theorem reported_iff {e : Error} :
    Reported e ↔ IsAnswered e ∨ ∃ text, Address.ofText text = .error e := by
  constructor
  · intro reported
    cases reported with
    | alreadyExists name =>
        exact .inl ⟨[(.epoch, .create name [])], .epoch, .create name [], rfl⟩
    | duplicateNode id => exact .inl (isAnswered_duplicateNode id)
    | clusterNotFound => exact .inl ⟨[], .epoch, .destroy, rfl⟩
    | nodeNotFound id => exact .inl ⟨[(.epoch, .create "" [])], .epoch, .node id, rfl⟩
    | endpointNotFound id => exact .inl (isAnswered_endpointNotFound id)
    | @malformedAddress text refused =>
        exact .inr ⟨text, Address.ofText_eq_error_iff.mpr ⟨refused, rfl⟩⟩
  · rintro (⟨calls, now, call, failed⟩ | ⟨text, failed⟩)
    · exact reported_of_refused (Registry.answer_eq_error_iff.mp failed)
    · obtain ⟨refused, rfl⟩ := Address.ofText_eq_error_iff.mp failed
      exact .malformedAddress refused

/-! ## What errors look like -/

theorem kind_eq_of_label_eq {k l : ErrorKind} (same : k.label = l.label) : k = l := by
  cases k <;> cases l <;> first | rfl | simp [ErrorKind.label] at same

section

-- One equation for each sort: those of the definition as a whole are too costly to derive.
variable (name text : String) (id : UInt32)

@[simp]
theorem message_alreadyExists : (alreadyExists name).message = "Cluster already exists: " ++ name :=
  rfl

@[simp]
theorem message_duplicateNode : (duplicateNode id).message =
    "Conflict: Node " ++ Text.decimalText id.toNat ++ " already exists" :=
  rfl

@[simp]
theorem message_clusterNotFound : clusterNotFound.message = "No active cluster" :=
  rfl

@[simp]
theorem message_nodeNotFound :
    (nodeNotFound id).message = "Node " ++ Text.decimalText id.toNat ++ " not found" :=
  rfl

@[simp]
theorem message_endpointNotFound : (endpointNotFound id).message =
    "No endpoint registered for node " ++ Text.decimalText id.toNat :=
  rfl

@[simp]
theorem message_malformedAddress : (malformedAddress text).message =
    "Invalid argument: Invalid GPA format: " ++ Text.quote text :=
  rfl

end

/-- Among the errors that are reported, kind and message tell which one it is. -/
theorem Reported.eq_of_message_eq {e f : Error} (first : Reported e) (second : Reported f)
    (kind : e.kind = f.kind) (message : e.message = f.message) : e = f := by
  cases first with
  | alreadyExists name =>
      cases second with
      | alreadyExists other => simpa using message
      | duplicateNode | clusterNotFound | nodeNotFound | endpointNotFound | malformedAddress =>
          cases kind
  | duplicateNode id =>
      cases second with
      | duplicateNode other => simpa [UInt32.toNat_inj] using message
      | alreadyExists | clusterNotFound | nodeNotFound | endpointNotFound | malformedAddress =>
          cases kind
  | clusterNotFound =>
      cases second with
      | clusterNotFound => rfl
      | nodeNotFound | endpointNotFound => simp [← String.toList_inj] at message
      | alreadyExists | duplicateNode | malformedAddress => cases kind
  | nodeNotFound id =>
      cases second with
      | nodeNotFound other => simpa [UInt32.toNat_inj] using message
      | clusterNotFound | endpointNotFound => simp [← String.toList_inj] at message
      | alreadyExists | duplicateNode | malformedAddress => cases kind
  | endpointNotFound id =>
      cases second with
      | endpointNotFound other => simpa [UInt32.toNat_inj] using message
      | clusterNotFound | nodeNotFound => simp [← String.toList_inj] at message
      | alreadyExists | duplicateNode | malformedAddress => cases kind
  | malformedAddress =>
      cases second with
      | malformedAddress => simpa [Text.quote_inj] using message
      | alreadyExists | duplicateNode | clusterNotFound | nodeNotFound | endpointNotFound =>
          cases kind

/-- What the message about a text that is no address quotes. -/
theorem toList_message_malformedAddress (text : String) :
    (malformedAddress text).message.toList =
      "Invalid argument: Invalid GPA format: ".toList ++
        '"' :: text.toList.flatMap Text.escape ++ ['"'] := by
  rw [message_malformedAddress, String.toList_append, Text.toList_quote, List.append_assoc]

theorem not_isControl_of_mem_message {text : String} {c : Char}
    (cMem : c ∈ (malformedAddress text).message.toList) : ¬Text.IsControl c := by
  rw [message_malformedAddress, String.toList_append] at cMem
  rcases List.mem_append.mp cMem with wording | quoted
  · have plain : "Invalid argument: Invalid GPA format: ".toList.all
        (fun c => decide ¬Text.IsControl c) = true := by decide
    exact of_decide_eq_true (List.all_eq_true.mp plain _ wording)
  · exact Text.not_isControl_of_mem_quote quoted

/-- The errors of calls and of texts that are read as addresses are known by their kind and
message: if both are the same, so are the errors, and so are the texts that are no addresses.
The message about such a text has no control character in it.  It ends in the quoted text, in
which every quote is escaped up to the one that ends it. -/
theorem renderings_identify_errors :
    (∀ e, Reported e ↔ IsAnswered e ∨ ∃ text, Address.ofText text = .error e) ∧
    (∀ e f, Reported e → Reported f →
      (e.kind.label, e.message) = (f.kind.label, f.message) → e = f) ∧
    (∀ s t, (malformedAddress s).message = (malformedAddress t).message → s = t) ∧
    ∀ text, (∀ c ∈ (malformedAddress text).message.toList, ¬Text.IsControl c) ∧
      ∃ body, (malformedAddress text).message.toList =
          "Invalid argument: Invalid GPA format: ".toList ++ '"' :: body ++ ['"'] ∧
        (∀ front after, body = front ++ '"' :: after → Text.EscapesNext front) ∧
        ¬Text.EscapesNext body := by
  have free : ¬Text.EscapesNext [] := Nat.not_odd_zero
  refine ⟨fun e => reported_iff, ?identified, ?quoted, ?plain⟩
  case identified =>
    intro e f first second same
    rw [Prod.mk.injEq] at same
    exact first.eq_of_message_eq second (kind_eq_of_label_eq same.1) same.2
  case quoted =>
    intro s t same
    simpa [Text.quote_inj] using same
  case plain =>
    intro text
    refine ⟨fun c => not_isControl_of_mem_message, text.toList.flatMap Text.escape,
      toList_message_malformedAddress text, ?_, Text.not_escapesNext_flatMap_escape free _⟩
    exact fun front after => Text.escapesNext_of_flatMap_escape free

/-- A bell, and a text that looks like a quoted bell. -/
theorem renderings_identify_errors_of_bell :
    let bell := malformedAddress "\x07"
    let lookalike := malformedAddress "\\u\x7b7\x7d"
    Reported bell ∧ Reported lookalike ∧
      bell.message = "Invalid argument: Invalid GPA format: \"\\u\x7b7\x7d\"" ∧
      lookalike.message = "Invalid argument: Invalid GPA format: \"\\\\u\x7b7\x7d\"" ∧
      (bell.kind.label, bell.message) ≠ (lookalike.kind.label, lookalike.message) := by
  intro bell lookalike
  have refused {text : String} (malformed : Address.ofText text = .error (.malformedAddress text)) :
      Reported (.malformedAddress text) :=
    .malformedAddress (Address.ofText_eq_error_iff.mp malformed).1
  have first : Reported bell := refused (by decide)
  have second : Reported lookalike := refused (by decide)
  obtain ⟨-, identified, -⟩ := renderings_identify_errors
  refine ⟨first, second, by decide +kernel, by decide +kernel, fun same => ?_⟩
  exact absurd (identified _ _ first second same) (by decide)

end Error

end ControlPlane
