import ControlPlane.Proofs.Json.Tagging

/-!
# Records as sequences

An array holds the fields of a record in their order.  It is vetted as the object that
says the same fields by name: with the same result if it is accepted, and with the same
refusal if it is not.  It may end early where the fields that are left allow it, and it
never holds more items than there are fields.
-/

namespace ControlPlane.Json

/-- Items by the names of the fields in whose places they stand. -/
def inOrder (fields : List Field) (items : List Draft) : List (String × Draft) :=
  List.zipWith (fun field d => (field.name, d)) fields items

theorem mem_of_mem_inOrder {fields : List Field} {items : List Draft} {m : String × Draft}
    (mMem : m ∈ inOrder fields items) : m.1 ∈ fields.map Field.name ∧ m.2 ∈ items := by
  induction fields generalizing items with
  | nil => cases mMem
  | cons field fields ih =>
      cases items with
      | nil => cases mMem
      | cons d items =>
          rcases List.mem_cons.mp mMem with rfl | isLater
          · exact ⟨List.mem_cons_self, List.mem_cons_self⟩
          · obtain ⟨named, isItem⟩ := ih isLater
            exact ⟨List.mem_cons_of_mem field.name named, List.mem_cons_of_mem d isItem⟩

theorem isValue_of_mem_inOrder {fields : List Field} {items : List Value} :
    ∀ m ∈ inOrder fields (items.map Value.draft), m.2.isValue = true := by
  intro m mMem
  obtain ⟨item, -, draft⟩ := List.mem_map.mp (mem_of_mem_inOrder mMem).2
  rw [← draft]
  exact item.isValue_draft

namespace Record

/-- What is left of the fields when the items end may be absent. -/
def MayEndAfter (fields : List Field) (count : Nat) : Prop :=
  count ≤ fields.length ∧ ∀ field ∈ fields.drop count, field.mayEnd = true

theorem mayEndAfter_of_drop {fields : List Field} {needed count : Nat}
    (optional : ∀ field ∈ fields.drop needed, field.mayEnd = true) (enough : needed ≤ count)
    (fits : count ≤ fields.length) : MayEndAfter fields count :=
  ⟨fits, fun field fieldMem =>
    optional field (List.drop_subset_drop_left fields enough fieldMem)⟩

theorem vetItems_nil {expected : String} {depth : Nat} {fields : List Field}
    (mayEnd : ∀ field ∈ fields, field.mayEnd = true) (index : Nat) :
    vetItems expected depth true index fields [] = .ok [] := by
  induction fields generalizing index with
  | nil => rfl
  | cons field fields ih =>
      obtain ⟨first, others⟩ := List.forall_mem_cons.mp mayEnd
      simp only [vetItems, first, Bool.not_true, Bool.false_eq_true, if_false, if_true]
      exact ih others (index + 1)

/-- Items are vetted as members of the names of their fields: `known` are all fields, of
which `fields` are still to come. -/
theorem vetItems_eq_vetMembers {expected : String} {depth : Nat} {known fields : List Field}
    (distinct : (known.map Field.name).Nodup) (toCome : fields.Sublist known) {items : List Draft}
    (mayEnd : MayEndAfter fields items.length) {seen : List String}
    (fresh : ∀ field ∈ fields, field.name ∉ seen) (index : Nat) :
    vetItems expected depth true index fields items =
      vetMembers known depth .closed seen ((inOrder fields items).map named) := by
  -- The induction is on the fields to come: each that is vetted joins the names seen, and
  -- `index` matters only for an array that is too short, which `mayEnd` rules out.
  induction fields generalizing items seen index with
  | nil =>
      obtain rfl := List.length_eq_zero_iff.mp (Nat.le_zero.mp mayEnd.1)
      rfl
  | cons field fields ih =>
      cases items with
      | nil => exact vetItems_nil mayEnd.2 index
      | cons d items =>
          have found : field? known field.name = some field :=
            (field?_eq_some_iff distinct).mpr ⟨toCome.subset List.mem_cons_self, rfl⟩
          obtain ⟨isFresh, othersFresh⟩ := List.forall_mem_cons.mp fresh
          have once := (toCome.map Field.name).nodup distinct
          rw [List.map_cons, List.nodup_cons] at once
          have stillFresh : ∀ other ∈ fields, other.name ∉ field.name :: seen := by
            intro other otherMem
            rw [List.mem_cons, not_or]
            refine ⟨?_, othersFresh other otherMem⟩
            intro same
            exact once.1 (same ▸ List.mem_map_of_mem otherMem)
          have rest := ih ((List.sublist_cons_self field fields).trans toCome)
            ⟨Nat.le_of_succ_le_succ mayEnd.1, mayEnd.2⟩ stillFresh (index + 1)
          simp only [vetItems, inOrder, List.zipWith_cons_cons, List.map_cons, vetMembers, found,
            if_neg isFresh]
          rw [rest]
          rfl

/-- An array is vetted as the object that says the same fields by name. -/
theorem vet_array {name : String} {fields : List Field} {items : List Draft}
    (distinct : (fields.map Field.name).Nodup) (mayEnd : MayEndAfter fields items.length)
    (depth : Nat) :
    vet name fields depth (.array items true) =
      vet name fields depth (.object ((inOrder fields items).map named) .closed) := by
  simp only [vet]
  cases entered : enter depth with
  | error refusal => rfl
  | ok inner => exact vetItems_eq_vetMembers distinct (.refl fields) mayEnd (by simp) 0

/-- No array with more items than fields is accepted. -/
theorem length_le_of_vetItems {expected : String} {depth index : Nat} {closed : Bool}
    {fields : List Field} {items : List Draft} {kept : List (String × Draft)}
    (vetted : vetItems expected depth closed index fields items = .ok kept) :
    items.length ≤ fields.length := by
  induction fields generalizing items index kept with
  | nil =>
      cases items with
      | nil => exact Nat.le_refl 0
      | cons d items => cases vetted
  | cons field fields ih =>
      cases items with
      | nil => exact Nat.zero_le _
      | cons d items =>
          obtain ⟨_, -, vetted⟩ := bind_eq_ok_iff.mp vetted
          obtain ⟨later, vetted, -⟩ := bind_eq_ok_iff.mp vetted
          exact Nat.succ_le_succ (ih vetted)

theorem length_le_of_vet_array {name : String} {fields : List Field} {depth : Nat}
    {items : List Draft} {closed : Bool} {kept : List (String × Draft)}
    (vetted : vet name fields depth (.array items closed) = .ok kept) :
    items.length ≤ fields.length := by
  obtain ⟨_, -, vetted⟩ := bind_eq_ok_iff.mp vetted
  exact length_le_of_vetItems vetted

/-- If every field has to be there, only closed arrays of all fields are accepted. -/
theorem full_of_vetItems {expected : String} {depth index : Nat} {closed : Bool}
    {fields : List Field} {items : List Draft} {kept : List (String × Draft)}
    (demanded : ∀ field ∈ fields, field.mayEnd = false)
    (vetted : vetItems expected depth closed index fields items = .ok kept) :
    items.length = fields.length ∧ closed = true := by
  induction fields generalizing items index kept with
  | nil =>
      cases items with
      | nil => cases closed <;> simp_all [vetItems]
      | cons d items => cases vetted
  | cons field fields ih =>
      obtain ⟨first, others⟩ := List.forall_mem_cons.mp demanded
      cases items with
      | nil => cases closed <;> simp [vetItems, first] at vetted
      | cons d items =>
          obtain ⟨_, -, vetted⟩ := bind_eq_ok_iff.mp vetted
          obtain ⟨later, vetted, -⟩ := bind_eq_ok_iff.mp vetted
          obtain ⟨length, isClosed⟩ := ih others vetted
          exact ⟨congrArg Nat.succ length, isClosed⟩

/-- An array that ends before a field that has to be there is refused because of its
length. -/
theorem vetItems_of_short {expected : String} {depth : Nat} {fields : List Field}
    {items : List Draft} (short : items.length < fields.length)
    (checked : List.Forall₂ (fun field d => field.check depth d = .ok ())
      (fields.take items.length) items)
    (demanded : ∀ field ∈ fields, field.mayEnd = false) (index : Nat) :
    vetItems expected depth true index fields items =
      .error (.misfit (.length (index + items.length) expected)) := by
  induction fields generalizing items index with
  | nil => exact absurd short (Nat.not_lt_zero _)
  | cons field fields ih =>
      obtain ⟨first, others⟩ := List.forall_mem_cons.mp demanded
      cases items with
      | nil => simp [vetItems, first]
      | cons d items =>
          rw [List.length_cons, List.take_succ_cons, List.forall₂_cons] at checked
          have rest := ih (Nat.lt_of_succ_lt_succ short) checked.2 others (index + 1)
          have count : index + 1 + items.length = index + (items.length + 1) := by omega
          simp only [vetItems, checked.1, rest, count, List.length_cons, bind, Except.bind]

theorem vet_array_of_short {name : String} {fields : List Field} {depth : Nat}
    {items : List Draft} (deep : 1 < depth) (short : items.length < fields.length)
    (checked : List.Forall₂ (fun field d => field.check (depth - 1) d = .ok ())
      (fields.take items.length) items)
    (demanded : ∀ field ∈ fields, field.mayEnd = false) :
    vet name fields depth (.array items true) =
      .error (.misfit (.length items.length (arrayTitle name fields))) := by
  rw [vet, enter_of_deep deep, ← Nat.zero_add items.length]
  exact vetItems_of_short short checked demanded 0

end Record

namespace Tagged

/-- If there is an item for every field, the items after the tag are vetted as those of a
record. -/
theorem vetItems_eq_vetItems {title : String} {depth : Nat} {fields : List Field}
    {items : List Draft} (count : items.length = fields.length) (expected : String)
    (index : Nat) :
    vetItems title depth index fields items =
      Record.vetItems expected depth true index fields items := by
  induction fields generalizing items index with
  | nil =>
      obtain rfl := List.length_eq_zero_iff.mp count
      rfl
  | cons field fields ih =>
      cases items with
      | nil => cases count
      | cons d items =>
          simp only [vetItems, Record.vetItems, ih (Nat.succ.inj count) (index + 1)]

/-- No other number of items after the tag is accepted. -/
theorem length_eq_of_vetItems {title : String} {depth index : Nat} {fields : List Field}
    {items : List Draft} {kept : List (String × Draft)}
    (vetted : vetItems title depth index fields items = .ok kept) :
    items.length = fields.length := by
  induction fields generalizing items index kept with
  | nil =>
      cases items with
      | nil => rfl
      | cons d items => cases vetted
  | cons field fields ih =>
      cases items with
      | nil => cases vetted
      | cons d items =>
          obtain ⟨_, -, vetted⟩ := bind_eq_ok_iff.mp vetted
          obtain ⟨later, vetted, -⟩ := bind_eq_ok_iff.mp vetted
          exact congrArg (· + 1) (ih vetted)

section Arrays

variable {title tag : String} {choices : List (String × Alternative α)} {depth : Nat}

/-- An array whose first item names an alternative and whose other items are as many as its
fields is decoded as the object that has the tag first and says the fields by name. -/
theorem decode_array {name : String} {chosen : Alternative α} {items : List Draft}
    (deep : 1 < depth) (names : choices.lookup name = some chosen)
    (distinct : (chosen.fields.map Field.name).Nodup)
    (noField : Record.field? chosen.fields tag = none)
    (readable : ∀ d ∈ items, d.isReadable (depth - 1) = true)
    (count : items.length = chosen.fields.length) :
    decode title tag choices depth (.array (.text (some name) :: items) true) =
      decode title tag choices depth (.object
        (((tag, .text (some name)) :: inOrder chosen.fields items).map Record.named)
          .closed) := by
  have named : Decoder.name choices (depth - 1) (.text (some name)) = .ok chosen :=
    Decoder.name_eq_ok_iff.mpr ⟨name, rfl, names⟩
  have others : ∀ m ∈ inOrder chosen.fields items, m.1 ≠ tag := by
    intro m mMem isTag
    obtain ⟨field, fieldMem, sameName⟩ := List.mem_map.mp (mem_of_mem_inOrder mMem).1
    exact List.find?_eq_none.mp noField field fieldMem (by simp [sameName, isTag])
  have allReadable : ∀ m ∈ (tag, .text (some name)) :: inOrder chosen.fields items,
      m.2.isReadable (depth - 1) = true :=
    List.forall_mem_cons.mpr ⟨rfl, fun m mMem => readable m.2 (mem_of_mem_inOrder mMem).2⟩
  have gathered : gather tag choices (depth - 1) .closed none
      (((tag, .text (some name)) :: inOrder chosen.fields items).map Record.named) =
        .ok (some chosen, inOrder chosen.fields items) := by
    rw [gather_eq_ok_iff allReadable, untagged, List.filter_cons_of_neg (by simp),
      List.filter_eq_self.mpr (by simpa using others), valuesOf_cons_self,
      valuesOf_eq_nil others]
    exact ⟨rfl, .inr ⟨rfl, _, chosen, rfl, named, rfl⟩⟩
  have vetted (title : String) : vetItems title (depth - 1) 0 chosen.fields items =
      Record.vetMembers chosen.fields (depth - 1) .closed []
        ((inOrder chosen.fields items).map Record.named) := by
    have mayEnd : Record.MayEndAfter chosen.fields items.length :=
      ⟨Nat.le_of_eq count, by simp [count]⟩
    rw [vetItems_eq_vetItems count title, ← Record.vetItems_eq_vetMembers distinct (.refl _) mayEnd
      (by simp)]
  simp only [decode, enter_of_deep deep, named, Draft.areReadable_iff_forall.mpr readable,
    Bool.and_self, if_true, gathered, vetted, bind, Except.bind]

/-- Only such an array is accepted. -/
theorem length_eq_of_decode_array {items : List Draft} {closed : Bool} {a : α}
    (decoded : decode title tag choices depth (.array items closed) = .ok a) :
    ∃ name chosen others, items = .text (some name) :: others ∧
      choices.lookup name = some chosen ∧ others.length = chosen.fields.length := by
  cases items with
  | nil =>
      obtain ⟨_, -, decoded⟩ := bind_eq_ok_iff.mp decoded
      split at decoded <;> cases decoded
  | cons first others =>
      obtain ⟨_, -, entered⟩ := bind_eq_ok_iff.mp decoded
      obtain ⟨chosen, named, built⟩ := bind_eq_ok_iff.mp entered
      obtain ⟨name, isName, names⟩ := Decoder.name_eq_ok_iff.mp named
      split at built
      · obtain ⟨kept, vetted, -⟩ := bind_eq_ok_iff.mp built
        exact ⟨name, chosen, others, by rw [isName], names, length_eq_of_vetItems vetted⟩
      · cases built

end Arrays

end Tagged

end ControlPlane.Json
