import ControlPlane.Proofs.Gateway.Client
import ControlPlane.Proofs.Gateway.Status
import ControlPlane.Proofs.Http.Octets
import ControlPlane.Proofs.Page.Canonical

/-!
# Pages by address

A page is asked for in the last segment of a path, as a percent-encoded text.  First the
segment has to be a text at all, then a cluster has to be held, and only then does it
count whether the text is an address.  The answer depends on the address and not on how it
is spelled.
-/

namespace ControlPlane

/-! ## Targets that are paths -/

namespace Http.Target

/-- A target without query and fragment is all path. -/
theorem eq_of_pathPart? {s path : List Char} (read : pathPart? s = some path) (noMark : '?' ∉ s)
    (noHash : '#' ∉ s) : path = s := by
  induction s generalizing path with
  | nil => exact (Option.some.inj read).symm
  | cons c rest ih =>
      rw [List.mem_cons, not_or] at noMark noHash
      unfold pathPart? at read
      split at read
      · next isNil => cases isNil
      · next isHash => exact absurd (List.cons.inj isHash).1.symm noHash.1
      · next isMark => exact absurd (List.cons.inj isMark).1.symm noMark.1
      · next isCons =>
          obtain ⟨rfl, rfl⟩ := List.cons.inj isCons
          split at read
          · cases read
          · obtain ⟨restPath, restRead, rfl⟩ := Option.map_eq_some_iff.mp read
            rw [ih restRead noMark.2 noHash.2]

theorem path?_eq_of_mem {rest path : List Char}
    (read : path? (String.ofList ('/' :: rest)) = some path) (noMark : '?' ∉ rest)
    (noHash : '#' ∉ rest) : path = '/' :: rest := by
  rw [path?, String.toList_ofList] at read
  split at read
  · cases read
  · exact eq_of_pathPart? read (by simp [noMark]) (by simp [noHash])

end Http.Target

/-- The path of a valid request whose target is all path. -/
theorem Http.Request.path_of_target {r : Http.Request} {rest : List Char} (valid : r.isValid = true)
    (target : r.target = String.ofList ('/' :: rest)) (noMark : '?' ∉ rest) (noHash : '#' ∉ rest) :
    r.path = '/' :: rest := by
  simp only [Http.Request.isValid, Bool.and_eq_true] at valid
  obtain ⟨path, found⟩ := Option.isSome_iff_exists.mp valid.1.2
  rw [Http.Request.path, found, Option.getD_some]
  rw [target] at found
  exact Http.Target.path?_eq_of_mem found noMark noHash

namespace Gateway

open ControlPlane.Http (Request Response)
open ControlPlane.Time (Instant)

/-! ## Requests and their answers -/

/-- A request to read the page that a segment of its path names. -/
structure ReadsPage (r : Request) (segment : List Char) : Prop where
  valid : r.isValid = true
  method : r.method = "GET"
  target : r.target = "/pages/" ++ String.ofList segment
  nonempty : segment ≠ []
  whole : '/' ∉ segment
  noMark : '?' ∉ segment
  noHash : '#' ∉ segment

/-- A segment is the percent-encoded UTF-8 of a text. -/
def Encodes (segment text : List Char) : Prop :=
  Http.Percent.octets segment = text.flatMap Http.Percent.utf8

/-- A text is an address. -/
def IsAddress (text : List Char) : Prop :=
  ∃ n < 2 ^ 64, Address.Spelled text n

/-- How the page is answered that a text names.  That no cluster is held counts first, and
then that the text is no address. -/
structure AnsweredByAddress (site : Site) (registry : Registry) (text : List Char)
    (response : Response) : Prop where
  notFound_iff : response.status = 404 ↔ registry.held = none
  notFound : registry.held = none →
    response.body = .json (.object [("error", .text "not_found"),
      ("message", .text "No active cluster")])
  invalid_iff : registry.held ≠ none → (response.status = 400 ↔ ¬IsAddress text)
  invalid : registry.held ≠ none → ¬IsAddress text →
    response.body = .json (.object [("error", .text "invalid_argument"),
      ("message", .text ("Invalid argument: Invalid GPA format: " ++
        Text.quote (String.ofList text)))])
  found : registry.held ≠ none → ∀ n < 2 ^ 64, Address.Spelled text n →
    response.status = 200 ∧
      ∃ info gpa, info = site.pages ⟨.ofNat n⟩ ∧
        Address.Canonical gpa.toList info.address.value.toNat ∧
        response.body = .json (.object [("gpa", .text gpa),
          ("owner_node", .natural info.ownerNode.toNat), ("heat", .natural info.heat.toNat),
          ("access_count", .natural info.accessCount.toNat),
          ("migration_count", .natural info.migrationCount.toNat)])

section

variable {r : Request} {segment text : List Char}

theorem ReadsPage.path (reads : ReadsPage r segment) : r.path = "/pages/".toList ++ segment := by
  have spelled : r.target = String.ofList ('/' :: ("pages/".toList ++ segment)) := by
    rw [reads.target, ← String.toList_inj]
    simp
  rw [Request.path_of_target reads.valid spelled (by simp [reads.noMark]) (by simp [reads.noHash])]
  rfl

theorem ReadsPage.leadsTo (reads : ReadsPage r segment) : LeadsTo r.path (.page segment) := by
  rw [reads.path]
  exact .page reads.whole reads.nonempty

/-- The page of a text is looked up once it is known that a cluster is held. -/
theorem ReadsPage.asks (reads : ReadsPage r segment) (encodes : Encodes segment text) :
    Asks r (.showPage (String.ofList text)) .ensure :=
  .showPage reads.leadsTo (.inl reads.method) (Http.Percent.decode?_eq_some_iff.mpr encodes)

/-- A segment that is the UTF-8 of nothing is refused before the registry is asked. -/
theorem ReadsPage.settled (reads : ReadsPage r segment) (strange : ∀ text, ¬Encodes segment text) :
    Settled r (.text 400 "Invalid URL") := by
  apply Settled.strangePage reads.leadsTo (.inl reads.method)
  rw [Option.eq_none_iff_forall_not_mem]
  exact fun text decoded => strange text (Http.Percent.decode?_eq_some_iff.mp decoded)

end

theorem answeredByAddress (site : Site) (registry : Registry) (text : List Char) :
    AnsweredByAddress site registry text
      (finish site .get
        (match registry.ensure, Address.ofText (String.ofList text) with
          | .error e, _ => (Reply.ofError e).response
          | .ok (), .error e => (Reply.ofError e).response
          | .ok (), .ok a => .json 200 (Wire.pageInfoValue (site.pages a)))) := by
  cases held : registry.held with
  | none =>
      have refused : registry.ensure = .error .clusterNotFound := by
        rw [Registry.ensure, Registry.require_of_free held]
        rfl
      rw [refused]
      refine ⟨iff_of_true rfl held, fun _ => rfl, ?_, ?_, ?_⟩
      all_goals exact fun isHeld => absurd held isHeld
  | some c =>
      have granted : registry.ensure = .ok () := Registry.map_require_of_held held _
      have isHeld : ¬registry.held = none := by simp [held]
      rw [granted]
      by_cases isAddress : IsAddress text
      · have read : ∀ n < 2 ^ 64, Address.Spelled text n →
            Address.ofText (String.ofList text) = .ok ⟨.ofNat n⟩ := fun n small spelled =>
          Address.ofText_of_spelled (by rwa [String.toList_ofList]) small
        obtain ⟨n, small, spelled⟩ := isAddress
        rw [read n small spelled]
        refine ⟨iff_of_false ?_ isHeld, fun free => absurd free isHeld,
          fun _ => iff_of_false ?_ fun strange => strange ⟨n, small, spelled⟩,
          fun _ strange => absurd ⟨n, small, spelled⟩ strange, ?_⟩
        · exact (by decide : ¬(200 : Nat) = 404)
        · exact (by decide : ¬(200 : Nat) = 400)
        intro _ m _ spelledM
        obtain rfl := spelled.unique spelledM
        exact ⟨rfl, _, _, rfl, Address.canonical_display_iff.mpr rfl, rfl⟩
      · have unread : Address.ofText (String.ofList text) =
            .error (.malformedAddress (String.ofList text)) := by
          apply Address.ofText_eq_malformed
          intro a read
          have spelled := Address.ofText_eq_ok_iff.mp read
          rw [String.toList_ofList] at spelled
          exact isAddress ⟨_, a.value.toNat_lt, spelled⟩
        rw [unread]
        refine ⟨iff_of_false ?_ isHeld, fun free => absurd free isHeld,
          fun _ => iff_of_true rfl isAddress, fun _ _ => rfl,
          fun _ n small spelled => absurd ⟨n, small, spelled⟩ isAddress⟩
        exact (by decide : ¬(400 : Nat) = 404)

section

variable (site : Site) (now : Instant) (registry : Registry) {r : Request}
  {segment text : List Char}

/-- A page is answered by its address. -/
theorem ReadsPage.answered (reads : ReadsPage r segment) (encodes : Encodes segment text) :
    AnsweredByAddress site registry text (handle site now registry r).response := by
  rw [handle_of_asks_showPage site now registry (reads.asks encodes), reads.method]
  exact answeredByAddress site registry text

/-- Asking for a page changes nothing. -/
theorem ReadsPage.registry_handle (reads : ReadsPage r segment) :
    (handle site now registry r).registry = registry := by
  by_cases encodes : ∃ text, Encodes segment text
  · obtain ⟨text, encodes⟩ := encodes
    exact (handle_of_asks site now registry (reads.asks encodes)).2
  · exact (handle_of_settled site now registry (reads.settled (not_exists.mp encodes))).2

end

/-- A page is answered by its address.  Whatever is held, asking for a page changes nothing.
If the segment encodes a text, then the response is that of the text; two spellings of one
address have the same response in full.  If it encodes none, then it is refused. -/
theorem pages_answer_by_address (site : Site) (now : Instant) (registry : Registry) :
    (∀ r segment, ReadsPage r segment → (handle site now registry r).registry = registry) ∧
    (∀ r segment text, ReadsPage r segment → Encodes segment text →
      AnsweredByAddress site registry text (handle site now registry r).response) ∧
    (∀ r r' segment segment' text text' n, ReadsPage r segment → ReadsPage r' segment' →
      Encodes segment text → Encodes segment' text' → n < 2 ^ 64 →
      Address.Spelled text n → Address.Spelled text' n → ∀ later,
        (handle site now registry r).response = (handle site later registry r').response) ∧
    (∀ r segment, ReadsPage r segment → (¬∃ text, Encodes segment text) →
      (handle site now registry r).response.status = 400) := by
  refine ⟨?unchanged, ?answered, ?same, ?strange⟩
  case unchanged =>
    exact fun r segment reads => reads.registry_handle site now registry
  case answered =>
    exact fun r segment text reads encodes => reads.answered site now registry encodes
  case same =>
    intro r r' segment segment' text text' n reads reads' encodes encodes' small spelled spelled'
      later
    rw [handle_of_asks_showPage site now registry (reads.asks encodes),
      handle_of_asks_showPage site later registry (reads'.asks encodes'),
      Address.ofText_of_spelled (by rwa [String.toList_ofList]) small,
      Address.ofText_of_spelled (by rwa [String.toList_ofList]) small, reads.method, reads'.method]
  case strange =>
    intro r segment reads unencoded
    have settled := reads.settled (not_exists.mp unencoded)
    rw [(handle_of_settled site now registry settled).1, status_finish]
    rfl

/-- One address in two spellings, one of them with an escaped digit. -/
theorem pages_answer_by_address_of_255 :
    let site : Site := ⟨"coord", false, .unassigned, .epoch⟩
    let registry : Registry := ⟨some (.new "c" .epoch)⟩
    ReadsPage (reading "/pages/%30xfF") "%30xfF".toList ∧
    ReadsPage (reading "/pages/0255") "0255".toList ∧
    (handle site .epoch registry (reading "/pages/0255")).response.status = 200 ∧
    (handle site .epoch registry (reading "/pages/%30xfF")).response =
      (handle site .epoch registry (reading "/pages/0255")).response := by
  intro site registry
  have hexadecimal : ReadsPage (reading "/pages/%30xfF") "%30xfF".toList :=
    ⟨by decide, rfl, rfl, by decide, by decide, by decide, by decide⟩
  have decimal : ReadsPage (reading "/pages/0255") "0255".toList :=
    ⟨by decide, rfl, rfl, by decide, by decide, by decide, by decide⟩
  have escaped : Encodes "%30xfF".toList "0xfF".toList :=
    Http.Percent.decode?_eq_some_iff.mp (by decide)
  have plain : Encodes "0255".toList "0255".toList :=
    Http.Percent.decode?_eq_some_iff.mp (by decide)
  have spelled : Address.Spelled "0xfF".toList 255 := Address.number?_eq_some_iff.mp (by decide)
  have spelled' : Address.Spelled "0255".toList 255 := Address.number?_eq_some_iff.mp (by decide)
  obtain ⟨-, answered, same, -⟩ := pages_answer_by_address site .epoch registry
  refine ⟨hexadecimal, decimal, ?_, ?_⟩
  · exact ((answered _ _ _ decimal plain).found (by decide) 255 (by decide) spelled').1
  · exact same _ _ _ _ _ _ 255 hexadecimal decimal escaped plain (by decide) spelled spelled' _

end Gateway

end ControlPlane
