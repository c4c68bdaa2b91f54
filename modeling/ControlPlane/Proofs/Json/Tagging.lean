import ControlPlane.Proofs.Json.Nesting
import ControlPlane.Proofs.Json.Occurrence

/-!
# Which objects are tagged alternatives

The tag of an object may stand anywhere among its members.  It has to be said once,
and the other members are vetted against the fields of the alternative that it names,
as if the object were a record of that alternative.
-/

namespace ControlPlane.Json

theorem Draft.areReadable_iff_forall {depth : Nat} {items : List Draft} :
    areReadable depth items = true ↔ ∀ d ∈ items, d.isReadable depth = true := by
  induction items with
  | nil => simp [areReadable]
  | cons d items ih => simp [areReadable, ih]

theorem Draft.areReadableMembers_named_iff {depth : Nat} {members : List (String × Draft)} :
    areReadableMembers depth (members.map Record.named) = true ↔
      ∀ m ∈ members, m.2.isReadable depth = true := by
  induction members with
  | nil => simp [areReadableMembers]
  | cons m members ih => simp [areReadableMembers, ih]

namespace Tagged

/-- The members of an object without its tag. -/
def untagged (tag : String) (members : List (String × Draft)) : List (String × Draft) :=
  members.filter fun m => m.1 ≠ tag

/-- The tag is said at most once and names the alternative that is found; every other
member is kept. -/
theorem gather_eq_ok_iff {tag : String} {choices : List (String × Alternative α)} {depth : Nat}
    {found chosen : Option (Alternative α)} {members others : List (String × Draft)}
    (readable : ∀ m ∈ members, m.2.isReadable depth = true) :
    gather tag choices depth .closed found (members.map Record.named) = .ok (chosen, others) ↔
      others = untagged tag members ∧
        ((valuesOf members tag = [] ∧ chosen = found) ∨
          found = none ∧ ∃ d alternative, valuesOf members tag = [d] ∧
            Decoder.name choices depth d = .ok alternative ∧ chosen = some alternative) := by
  induction members generalizing found others with
  | nil => simp [gather, untagged, valuesOf_nil, eq_comm, and_comm]
  | cons m members ih =>
      obtain ⟨key, d⟩ := m
      obtain ⟨first, rest⟩ := List.forall_mem_cons.mp readable
      rw [List.map_cons]
      by_cases isTag : key = tag
      · subst isTag
        rw [valuesOf_cons_self, untagged, List.filter_cons_of_neg (by simp), ← untagged]
        cases found with
        | some alternative => simp [gather]
        | none =>
            cases named : Decoder.name choices depth d with
            | error refusal =>
                simp [gather, named, bind, Except.bind]
            | ok alternative =>
                have later {others : List (String × Draft)} :
                    gather key choices depth .closed (some alternative)
                      (members.map Record.named) = .ok (chosen, others) ↔ _ := ih rest
                simp [gather, named, bind, Except.bind, later]
      · rw [valuesOf_cons_of_ne isTag, untagged, List.filter_cons_of_pos (by simpa using isTag),
          ← untagged]
        have step : gather tag choices depth .closed found
            (Record.named (key, d) :: members.map Record.named) = .ok (chosen, others) ↔
            ∃ kept, gather tag choices depth .closed found (members.map Record.named) =
              .ok (chosen, kept) ∧ others = (key, d) :: kept := by
          cases gathered : gather tag choices depth .closed found (members.map Record.named) <;>
            simp [gather, isTag, first, gathered, bind, Except.bind, pure, Except.pure,
              Prod.ext_iff, eq_comm]
        simp only [step, ih rest]
        constructor
        · rintro ⟨_, ⟨rfl, tagged⟩, rfl⟩
          exact ⟨rfl, tagged⟩
        · rintro ⟨rfl, tagged⟩
          exact ⟨_, ⟨rfl, tagged⟩, rfl⟩

/-- A tag that is no field does not count when fields are vetted. -/
theorem vettable_untagged_iff {tag : String} {fields : List Field}
    (noField : Record.field? fields tag = none) {depth : Nat} {members : List (String × Draft)} :
    Record.Vettable fields depth [] (untagged tag members) ↔
      Record.Vettable fields depth [] members := by
  have same {name : String} {field : Field} (found : Record.field? fields name = some field) :
      valuesOf (untagged tag members) name = valuesOf members name := by
    apply valuesOf_filter
    intro d
    rw [decide_eq_true_eq]
    rintro rfl
    rw [noField] at found
    cases found
  constructor <;>
    · intro vettable name field found
      simpa only [AtMostOnce, Once, same found] using vettable name field found

theorem filter_isField_untagged {tag : String} {fields : List Field}
    (noField : Record.field? fields tag = none) (members : List (String × Draft)) :
    (untagged tag members).filter (Record.isField fields) =
      members.filter (Record.isField fields) := by
  rw [untagged, List.filter_filter]
  apply List.filter_congr
  intro m _
  by_cases isTag : m.1 = tag
  · simp [Record.isField, isTag, noField]
  · simp [isTag]

section Objects

variable {title tag : String} {choices : List (String × Alternative α)} {depth : Nat}
  {members : List (String × Draft)}

theorem isValue_of_mem_untagged (deep : 1 < depth)
    (readable : ∀ m ∈ members, m.2.isReadable (depth - 1) = true) :
    ∀ m ∈ untagged tag members, m.2.isValue = true := by
  intro m mMem
  have clear := (Draft.isReadable_iff m.2 (Nat.sub_pos_of_lt deep)).mp
    (readable m (List.mem_of_mem_filter mMem))
  exact m.2.isValue_of_isClear clear.1

/-- An object that says its tag once and whose fields are vettable is built from the
fields of the alternative that the tag names. -/
theorem decode_object_of_vettable {name : String} {chosen : Alternative α} (deep : 1 < depth)
    (readable : ∀ m ∈ members, m.2.isReadable (depth - 1) = true)
    (tagged : valuesOf members tag = [.text (some name)])
    (names : choices.lookup name = some chosen)
    (noField : Record.field? chosen.fields tag = none)
    (vettable : Record.Vettable chosen.fields (depth - 1) [] members) :
    decode title tag choices depth (.object (members.map Record.named) .closed) =
      chosen.build (members.filter (Record.isField chosen.fields)) (depth - 1) := by
  have gathered : gather tag choices (depth - 1) .closed none (members.map Record.named) =
      .ok (some chosen, untagged tag members) :=
    (gather_eq_ok_iff readable).mpr
      ⟨rfl, .inr ⟨rfl, _, chosen, tagged, Decoder.name_eq_ok_iff.mpr ⟨name, rfl, names⟩, rfl⟩⟩
  have vetted := (Record.vetMembers_eq_ok_iff (isValue_of_mem_untagged deep readable)).mpr
    ⟨(vettable_untagged_iff noField).mpr vettable, rfl⟩
  rw [filter_isField_untagged noField] at vetted
  -- The code names the members that are left once more, which is what `named` does.
  have vettedAgain : Record.vetMembers chosen.fields (depth - 1) .closed []
      ((untagged tag members).map fun m => (some m.1, m.2)) = _ := vetted
  simp only [decode, enter_of_deep deep, gathered, bind, Except.bind, vettedAgain]

/-- Only such an object is decoded. -/
theorem exists_of_decode_object {a : α} (deep : 1 < depth)
    (readable : ∀ m ∈ members, m.2.isReadable (depth - 1) = true)
    (noField : ∀ name chosen, choices.lookup name = some chosen →
      Record.field? chosen.fields tag = none)
    (decoded : decode title tag choices depth (.object (members.map Record.named) .closed) =
      .ok a) :
    ∃ name chosen, valuesOf members tag = [.text (some name)] ∧
      choices.lookup name = some chosen ∧
      Record.Vettable chosen.fields (depth - 1) [] members := by
  simp only [decode, enter_of_deep deep, bind, Except.bind] at decoded
  cases gathered : gather tag choices (depth - 1) .closed none (members.map Record.named) with
  | error refusal =>
      rw [gathered] at decoded
      cases decoded
  | ok result =>
      obtain ⟨found, others⟩ := result
      rw [gathered] at decoded
      obtain ⟨rfl, tagged⟩ := (gather_eq_ok_iff readable).mp gathered
      rcases tagged with ⟨_, rfl⟩ | ⟨_, d, chosen, said, named, rfl⟩
      · cases decoded
      · obtain ⟨name, rfl, names⟩ := Decoder.name_eq_ok_iff.mp named
        refine ⟨name, chosen, said, names, ?_⟩
        cases vetted : Record.vetMembers chosen.fields (depth - 1) .closed []
            ((untagged tag members).map Record.named) with
        | error refusal =>
            have refused : Record.vetMembers chosen.fields (depth - 1) .closed []
              ((untagged tag members).map fun m => (some m.1, m.2)) = _ := vetted
            simp only [refused] at decoded
            cases decoded
        | ok kept =>
            have accepted :=
              (Record.vetMembers_eq_ok_iff (isValue_of_mem_untagged deep readable)).mp vetted
            exact (vettable_untagged_iff (noField name chosen names)).mp accepted.1

end Objects

end Tagged

/-! ## Depth -/

/-- Nothing that the decoder reads is a container, so that it does not matter how deep the
value stands. -/
def Decoder.IsFlat (decode : Decoder α) : Prop :=
  ∀ depth other d, decode depth d = decode other d

namespace Decoder

theorem isFlat_textAs (expected : String) (read : String → Except Refusal α) :
    (textAs expected read).IsFlat := by
  intro depth other d
  cases d with
  | text content => cases content <;> rfl
  | _ => rfl

theorem isFlat_text : text.IsFlat :=
  isFlat_textAs _ _

theorem isFlat_name (choices : List (String × α)) : (name choices).IsFlat :=
  isFlat_textAs _ _

theorem isFlat_natural (limit : Nat) (expected : String) : (natural limit expected).IsFlat := by
  intro depth other d
  cases d <;> rfl

theorem isFlat_uint16 : uint16.IsFlat := by
  intro depth other d
  rw [uint16, uint16, isFlat_natural _ _ depth other]

theorem isFlat_uint32 : uint32.IsFlat := by
  intro depth other d
  rw [uint32, uint32, isFlat_natural _ _ depth other]

end Decoder

/-- The field is checked in the same way however deep it stands. -/
def Field.IsFlat (field : Field) : Prop :=
  field.check.IsFlat

theorem Field.isFlat_of {decode : Decoder α} (flat : decode.IsFlat) (name : String) :
    (Field.of name decode).IsFlat := by
  intro depth other d
  simp only [of, flat depth other]

/-- The alternative is built in the same way however deep it stands. -/
structure Alternative.IsFlat (chosen : Alternative α) : Prop where
  fields : ∀ field ∈ chosen.fields, field.IsFlat
  build : ∀ kept depth other, chosen.build kept depth = chosen.build kept other

theorem Record.required_congr {decode : Decoder α} (flat : decode.IsFlat)
    (kept : List (String × Draft)) (name : String) (depth other : Nat) :
    required kept name decode depth = required kept name decode other := by
  simp only [required, flat depth other]

theorem Record.vetMembers_congr {fields : List Field} (flat : ∀ field ∈ fields, field.IsFlat)
    (depth other : Nat) (tail : Tail) (seen : List String)
    (members : List (Option String × Draft)) :
    vetMembers fields depth tail seen members = vetMembers fields other tail seen members := by
  induction members generalizing seen with
  | nil => rfl
  | cons m members ih =>
      obtain ⟨key, d⟩ := m
      cases key with
      | none => rfl
      | some name =>
          cases found : field? fields name with
          | none => simp only [vetMembers, found, ih]
          | some field =>
              have checked := flat field (List.mem_of_find?_eq_some found) depth other d
              simp only [vetMembers, found, checked, ih]

namespace Tagged

theorem gather_congr {tag : String} {choices : List (String × Alternative α)} {depth other : Nat}
    {tail : Tail} {members : List (Option String × Draft)}
    (fits : Draft.deepestValue members < depth) (fitsToo : Draft.deepestValue members < other)
    (found : Option (Alternative α)) :
    gather tag choices depth tail found members = gather tag choices other tail found members := by
  induction members generalizing found with
  | nil => rfl
  | cons m members ih =>
      obtain ⟨key, d⟩ := m
      rw [Draft.deepestValue, Nat.max_lt] at fits fitsToo
      cases key with
      | none => rfl
      | some name =>
          simp only [gather, Decoder.isFlat_name choices depth other d,
            Draft.isReadable_congr fits.1 fitsToo.1, ih fits.2 fitsToo.2]

theorem vetItems_congr {fields : List Field} (flat : ∀ field ∈ fields, field.IsFlat)
    (title : String) (depth other index : Nat) (items : List Draft) :
    vetItems title depth index fields items = vetItems title other index fields items := by
  induction fields generalizing index items with
  | nil => cases items <;> rfl
  | cons field fields ih =>
      obtain ⟨first, others⟩ := List.forall_mem_cons.mp flat
      cases items with
      | nil => rfl
      | cons d items => simp only [vetItems, first depth other d, ih others]

/-- An alternative that is found is one of those that have a name. -/
theorem exists_lookup_of_gather {tag : String} {choices : List (String × Alternative α)}
    {depth : Nat} {tail : Tail} {found : Option (Alternative α)} {chosen : Alternative α}
    {members : List (Option String × Draft)} {others : List (String × Draft)}
    (gathered : gather tag choices depth tail found members = .ok (some chosen, others)) :
    found = some chosen ∨ ∃ name, choices.lookup name = some chosen := by
  induction members generalizing found others with
  | nil =>
      rw [gather] at gathered
      split at gathered
      · cases gathered
        exact .inl rfl
      · split at gathered <;> cases gathered
  | cons m members ih =>
      obtain ⟨key, d⟩ := m
      cases key with
      | none => cases gathered
      | some name =>
          rw [gather] at gathered
          split at gathered
          · split at gathered
            · cases gathered
            · obtain ⟨alternative, named, later⟩ := bind_eq_ok_iff.mp gathered
              rcases ih later with same | isNamed
              · obtain ⟨name, -, names⟩ := Decoder.name_eq_ok_iff.mp named
                rw [Option.some.inj same] at names
                exact .inr ⟨name, names⟩
              · exact .inr isNamed
          · split at gathered
            · obtain ⟨⟨later, kept⟩, rest, same⟩ := bind_eq_ok_iff.mp gathered
              cases same
              exact ih rest
            · cases gathered

/-- Where there is room for its containers, a tagged alternative is decoded in the same
way, and refused for the same reason, however deep it stands. -/
theorem decode_congr {title tag : String} {choices : List (String × Alternative α)}
    (flat : ∀ name chosen, choices.lookup name = some chosen → chosen.IsFlat)
    {depth other : Nat} {d : Draft} (fits : d.nesting < depth) (fitsToo : d.nesting < other) :
    decode title tag choices depth d = decode title tag choices other d := by
  cases d with
  | object members tail =>
      rw [Draft.nesting] at fits fitsToo
      have inside : Draft.deepestValue members < depth - 1 := by omega
      have insideToo : Draft.deepestValue members < other - 1 := by omega
      simp only [decode, enter_of_deep (by omega : 1 < depth),
        enter_of_deep (by omega : 1 < other), gather_congr inside insideToo, bind, Except.bind]
      cases gathered : gather tag choices (other - 1) tail none members with
      | error refusal => rfl
      | ok result =>
          obtain ⟨found, others⟩ := result
          cases found with
          | none => rfl
          | some chosen =>
              rcases exists_lookup_of_gather gathered with absent | ⟨name, names⟩
              · cases absent
              · have chosenFlat := flat name chosen names
                simp only [Record.vetMembers_congr chosenFlat.fields (depth - 1) (other - 1),
                  chosenFlat.build _ (depth - 1) (other - 1)]
  | array items closed =>
      rw [Draft.nesting] at fits fitsToo
      cases items with
      | nil =>
          simp only [decode, enter_of_deep (by omega : 1 < depth),
            enter_of_deep (by omega : 1 < other), bind, Except.bind]
      | cons first items =>
          rw [Draft.deepest] at fits fitsToo
          have inside : Draft.deepest items < depth - 1 := by omega
          have insideToo : Draft.deepest items < other - 1 := by omega
          simp only [decode, enter_of_deep (by omega : 1 < depth),
            enter_of_deep (by omega : 1 < other), Draft.areReadable_congr inside insideToo,
            Decoder.isFlat_name choices (depth - 1) (other - 1), bind, Except.bind]
          cases named : Decoder.name choices (other - 1) first with
          | error refusal => rfl
          | ok chosen =>
              obtain ⟨name, -, names⟩ := Decoder.name_eq_ok_iff.mp named
              have chosenFlat := flat name chosen names
              simp only [vetItems_congr chosenFlat.fields _ (depth - 1) (other - 1),
                chosenFlat.build _ (depth - 1) (other - 1)]
  | _ => rfl

end Tagged

end ControlPlane.Json
