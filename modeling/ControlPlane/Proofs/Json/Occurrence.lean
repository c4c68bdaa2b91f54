import ControlPlane.Proofs.Json.Scalar

/-!
# Which objects are records

What an object says about a field is the list of the values that its members of that
name have.  An object is vetted exactly if every field is said at most once and takes
its value; what is no field may be said in any way.  The fields that are kept are then
read as the object says them.
-/

namespace ControlPlane.Json

/-- The values of the members of one name, in their order. -/
def valuesOf (members : List (String × Draft)) (name : String) : List Draft :=
  (members.filter fun m => m.1 = name).map Prod.snd

theorem valuesOf_nil (name : String) : valuesOf [] name = [] :=
  rfl

theorem valuesOf_cons_self (name : String) (d : Draft) (members : List (String × Draft)) :
    valuesOf ((name, d) :: members) name = d :: valuesOf members name := by
  simp [valuesOf]

theorem valuesOf_cons_of_ne {name other : String} (differs : other ≠ name) (d : Draft)
    (members : List (String × Draft)) :
    valuesOf ((other, d) :: members) name = valuesOf members name := by
  simp [valuesOf, differs]

theorem valuesOf_append (members others : List (String × Draft)) (name : String) :
    valuesOf (members ++ others) name = valuesOf members name ++ valuesOf others name := by
  simp [valuesOf]

/-- A name is not said if no member has it. -/
theorem valuesOf_eq_nil {members : List (String × Draft)} {name : String}
    (foreign : ∀ m ∈ members, m.1 ≠ name) : valuesOf members name = [] := by
  simpa [valuesOf] using foreign

/-- Members in another order say the same, value by value. -/
theorem perm_valuesOf {members others : List (String × Draft)} (reordered : members.Perm others)
    (name : String) : (valuesOf members name).Perm (valuesOf others name) :=
  (reordered.filter _).map _

/-- Leaving out members of other names changes nothing. -/
theorem valuesOf_filter {members : List (String × Draft)} {keep : String × Draft → Bool}
    {name : String} (kept : ∀ d, keep (name, d) = true) :
    valuesOf (members.filter keep) name = valuesOf members name := by
  induction members with
  | nil => rfl
  | cons m members ih =>
      obtain ⟨other, d⟩ := m
      by_cases same : other = name
      · subst same
        rw [List.filter_cons_of_pos (kept d), valuesOf_cons_self, valuesOf_cons_self, ih]
      · rw [valuesOf_cons_of_ne same, ← ih, List.filter_cons]
        split
        · rw [valuesOf_cons_of_ne same]
        · rfl

/-- A name that is said exactly once, with a value as described. -/
def Once (members : List (String × Draft)) (name : String) (holds : Draft → Prop) : Prop :=
  ∃ d, valuesOf members name = [d] ∧ holds d

/-- A name that is said at most once, and then with a value as described. -/
def AtMostOnce (members : List (String × Draft)) (name : String) (holds : Draft → Prop) : Prop :=
  valuesOf members name = [] ∨ Once members name holds

/-- A name that may be left out or be `null`, and has a value as described otherwise. -/
def Optionally (members : List (String × Draft)) (name : String) (holds : Draft → α → Prop) :
    Option α → Prop
  | none => valuesOf members name = [] ∨ valuesOf members name = [.null]
  | some a => Once members name fun d => holds d a

/-- The first of some names that is not said. -/
def firstAbsent? (members : List (String × Draft)) (names : List String) : Option String :=
  names.find? fun name => (valuesOf members name).isEmpty

theorem Once.imp {members : List (String × Draft)} {name : String} {holds follows : Draft → Prop}
    (once : Once members name holds) (implied : ∀ d, holds d → follows d) :
    Once members name follows := by
  obtain ⟨d, said, value⟩ := once
  exact ⟨d, said, implied d value⟩

theorem AtMostOnce.imp {members : List (String × Draft)} {name : String}
    {holds follows : Draft → Prop} (said : AtMostOnce members name holds)
    (implied : ∀ d, holds d → follows d) : AtMostOnce members name follows := by
  rcases said with absent | once
  · exact .inl absent
  · exact .inr (once.imp implied)

/-- A value can be given to a name that is said at most once, whether it is said or not. -/
theorem AtMostOnce.exists [Inhabited α] {members : List (String × Draft)} {name : String}
    {holds : Draft → α → Prop} (said : AtMostOnce members name fun d => ∃ a, holds d a) :
    ∃ a, AtMostOnce members name fun d => holds d a := by
  rcases said with absent | ⟨d, once, a, value⟩
  · exact ⟨default, .inl absent⟩
  · exact ⟨a, .inr ⟨d, once, value⟩⟩

theorem once_iff_atMostOnce {members : List (String × Draft)} {name : String}
    {holds : Draft → Prop} :
    Once members name holds ↔ AtMostOnce members name holds ∧ valuesOf members name ≠ [] := by
  constructor
  · intro once
    refine ⟨.inr once, ?_⟩
    obtain ⟨d, said, -⟩ := once
    rw [said]
    exact List.cons_ne_nil d []
  · rintro ⟨absent | once, present⟩
    · exact absurd absent present
    · exact once

theorem firstAbsent?_eq_none_iff {members : List (String × Draft)} {names : List String} :
    firstAbsent? members names = none ↔ ∀ name ∈ names, valuesOf members name ≠ [] := by
  simp [firstAbsent?]

/-- Every one of some names is said exactly once if each is said at most once and none
is absent. -/
theorem forall_once_iff {members : List (String × Draft)}
    {described : List (String × (Draft → Prop))} :
    (∀ f ∈ described, Once members f.1 f.2) ↔
      (∀ f ∈ described, AtMostOnce members f.1 f.2) ∧
        firstAbsent? members (described.map Prod.fst) = none := by
  simp only [once_iff_atMostOnce, firstAbsent?_eq_none_iff, List.forall_mem_map,
    ← forall₂_and]

section Alike

variable {members others : List (String × Draft)} {name : String}

theorem once_congr (alike : (valuesOf members name).Perm (valuesOf others name))
    {holds : Draft → Prop} : Once members name holds ↔ Once others name holds := by
  have one (d : Draft) : valuesOf members name = [d] ↔ valuesOf others name = [d] :=
    ⟨fun single => List.perm_singleton.mp (single ▸ alike.symm),
      fun single => List.perm_singleton.mp (single ▸ alike)⟩
  simp only [Once, one]

theorem optionally_congr (alike : (valuesOf members name).Perm (valuesOf others name))
    {holds : Draft → α → Prop} {o : Option α} :
    Optionally members name holds o ↔ Optionally others name holds o := by
  have unsaid : valuesOf members name = [] ↔ valuesOf others name = [] :=
    ⟨fun empty => List.perm_nil.mp (empty ▸ alike.symm),
      fun empty => List.perm_nil.mp (empty ▸ alike)⟩
  have one : valuesOf members name = [.null] ↔ valuesOf others name = [.null] :=
    ⟨fun single => List.perm_singleton.mp (single ▸ alike.symm),
      fun single => List.perm_singleton.mp (single ▸ alike)⟩
  cases o with
  | none => simp only [Optionally, unsaid, one]
  | some a => exact once_congr alike

end Alike

theorem atMostOnce_cons_self {name : String} {d : Draft} {members : List (String × Draft)}
    {holds : Draft → Prop} :
    AtMostOnce ((name, d) :: members) name holds ↔ holds d ∧ valuesOf members name = [] := by
  rw [AtMostOnce, Once, valuesOf_cons_self]
  constructor
  · rintro (empty | ⟨_, single, value⟩)
    · cases empty
    · obtain ⟨rfl, empty⟩ := List.cons.inj single
      exact ⟨value, empty⟩
  · rintro ⟨value, empty⟩
    exact .inr ⟨d, by rw [empty], value⟩

namespace Record

/-! ## Fields by name -/

/-- Is a member a field? -/
def isField (fields : List Field) (m : String × Draft) : Bool :=
  (field? fields m.1).isSome

theorem field?_eq_some_iff {fields : List Field} (distinct : (fields.map Field.name).Nodup)
    {name : String} {field : Field} :
    field? fields name = some field ↔ field ∈ fields ∧ field.name = name := by
  induction fields with
  | nil => simp [field?]
  | cons first fields ih =>
      rw [List.map_cons, List.nodup_cons] at distinct
      have others := ih distinct.2
      rw [field?] at others ⊢
      by_cases same : first.name = name
      · rw [List.find?_cons_of_pos (by simpa using same), Option.some.injEq, List.mem_cons]
        constructor
        · rintro rfl
          exact ⟨.inl rfl, same⟩
        · rintro ⟨rfl | isLater, named⟩
          · rfl
          · refine absurd (List.mem_map_of_mem (f := Field.name) isLater) ?_
            rw [named, ← same]
            exact distinct.1
      · rw [List.find?_cons_of_neg (by simpa using same), others, List.mem_cons]
        constructor
        · rintro ⟨isLater, named⟩
          exact ⟨.inr isLater, named⟩
        · rintro ⟨rfl | isLater, named⟩
          · exact absurd named same
          · exact ⟨isLater, named⟩

theorem check_of_eq_ok_iff {name : String} {decode : Decoder α} {depth : Nat} {d : Draft} :
    (Field.of name decode).check depth d = .ok () ↔ ∃ a, decode depth d = .ok a := by
  cases read : decode depth d <;> simp [Field.of, read, Except.map]

/-! ## Vetting -/

/-- Every field is said at most once and takes its value, and no field that was seen
before is said again. -/
def Vettable (fields : List Field) (depth : Nat) (seen : List String)
    (members : List (String × Draft)) : Prop :=
  ∀ name field, field? fields name = some field →
    (name ∈ seen → valuesOf members name = []) ∧
      AtMostOnce members name fun d => field.check depth d = .ok ()

/-- A member that is no field may be left out. -/
theorem vettable_cons_of_foreign {fields : List Field} {depth : Nat} {seen : List String}
    {name : String} (foreign : field? fields name = none) (d : Draft)
    (members : List (String × Draft)) :
    Vettable fields depth seen ((name, d) :: members) ↔ Vettable fields depth seen members := by
  have differs {other : String} {field : Field} (found : field? fields other = some field) :
      name ≠ other := by
    rintro rfl
    rw [foreign] at found
    cases found
  constructor <;>
    · intro vettable other field found
      simpa only [AtMostOnce, Once, valuesOf_cons_of_ne (differs found)] using
        vettable other field found

/-- A member that is a field was not seen before, takes its value and is not said again. -/
theorem vettable_cons_of_field {fields : List Field} {depth : Nat} {seen : List String}
    {name : String} {field : Field} (found : field? fields name = some field) (d : Draft)
    (members : List (String × Draft)) :
    Vettable fields depth seen ((name, d) :: members) ↔
      name ∉ seen ∧ field.check depth d = .ok () ∧
        Vettable fields depth (name :: seen) members := by
  constructor
  · intro vettable
    obtain ⟨fresh, once⟩ := vettable name field found
    obtain ⟨checked, unsaid⟩ := atMostOnce_cons_self.mp once
    refine ⟨?_, checked, ?_⟩
    · intro isSeen
      have empty := fresh isSeen
      rw [valuesOf_cons_self] at empty
      cases empty
    · intro other otherField otherFound
      by_cases same : name = other
      · subst same
        exact ⟨fun _ => unsaid, .inl unsaid⟩
      · have rest := vettable other otherField otherFound
        simp only [AtMostOnce, Once, valuesOf_cons_of_ne same] at rest
        refine ⟨fun isSeen => ?_, rest.2⟩
        rcases List.mem_cons.mp isSeen with rfl | isEarlier
        · exact absurd rfl same
        · exact rest.1 isEarlier
  · rintro ⟨fresh, checked, vettable⟩ other otherField otherFound
    have rest := vettable other otherField otherFound
    by_cases same : name = other
    · subst same
      rw [found] at otherFound
      cases otherFound
      exact ⟨fun isSeen => absurd isSeen fresh,
        atMostOnce_cons_self.mpr ⟨checked, rest.1 List.mem_cons_self⟩⟩
    · simp only [AtMostOnce, Once, valuesOf_cons_of_ne same]
      exact ⟨fun isSeen => rest.1 (List.mem_cons_of_mem name isSeen), rest.2⟩

/-- Members are vetted exactly if they are vettable, and to the fields among them. -/
theorem vetMembers_eq_ok_iff {fields : List Field} {depth : Nat} {seen : List String}
    {members kept : List (String × Draft)} (values : ∀ m ∈ members, m.2.isValue = true) :
    vetMembers fields depth .closed seen (members.map named) = .ok kept ↔
      Vettable fields depth seen members ∧ kept = members.filter (isField fields) := by
  induction members generalizing seen kept with
  | nil =>
      have vettable : Vettable fields depth seen [] := fun _ _ _ => ⟨fun _ => rfl, .inl rfl⟩
      rw [and_iff_right vettable]
      exact ⟨fun vetted => (Except.ok.inj vetted).symm, fun empty => congrArg Except.ok empty.symm⟩
  | cons m members ih =>
      obtain ⟨name, d⟩ := m
      obtain ⟨value, others⟩ := List.forall_mem_cons.mp values
      rw [List.map_cons]
      cases found : field? fields name with
      | none =>
          have foreign : ¬ isField fields (name, d) = true := by simp [isField, found]
          rw [vettable_cons_of_foreign found, List.filter_cons_of_neg foreign, ← ih others]
          simp only [vetMembers, found, value, if_true]
      | some field =>
          have known : isField fields (name, d) = true := by simp [isField, found]
          rw [vettable_cons_of_field found, List.filter_cons_of_pos known]
          by_cases isSeen : name ∈ seen
          · simp [vetMembers, found, isSeen]
          · cases checked : field.check depth d with
            | error refusal => simp [vetMembers, found, isSeen, checked, bind, Except.bind]
            | ok _ =>
                have rest {later : List (String × Draft)} :
                    vetMembers fields depth .closed (name :: seen) (members.map named) =
                      .ok later ↔ _ := ih others
                cases vetted : vetMembers fields depth .closed (name :: seen)
                    (members.map named) with
                | error refusal =>
                    have unfit : ¬ Vettable fields depth (name :: seen) members := by
                      intro vettable
                      have accepted := rest.mpr ⟨vettable, rfl⟩
                      rw [vetted] at accepted
                      cases accepted
                    simp [vetMembers, found, isSeen, checked, vetted, unfit, bind, Except.bind]
                | ok later =>
                    obtain ⟨vettable, rfl⟩ := rest.mp vetted
                    simp [vetMembers, found, isSeen, checked, vetted, vettable, bind, Except.bind,
                      pure, Except.pure, eq_comm]

/-- Only closed objects are vetted, and only if the name of each member is a text. -/
theorem exists_named_of_vetMembers {fields : List Field} {depth : Nat} {tail : Tail}
    {seen : List String} {members : List (Option String × Draft)} {kept : List (String × Draft)}
    (vetted : vetMembers fields depth tail seen members = .ok kept) :
    tail = .closed ∧ ∃ those : List (String × Draft), members = those.map named := by
  induction members generalizing seen kept with
  | nil =>
      obtain ⟨_, ended, -⟩ := map_eq_ok_iff.mp vetted
      refine ⟨?_, [], rfl⟩
      cases tail with
      | closed => rfl
      | bareKey key =>
          cases key with
          | none => cases ended
          | some name =>
              rw [vetTail] at ended
              split at ended <;> cases ended
      | broken => cases ended
      | stray token => cases ended
  | cons m members ih =>
      obtain ⟨_ | name, d⟩ := m
      · cases vetted
      have rest : ∃ seen later, vetMembers fields depth tail seen members = .ok later := by
        rw [vetMembers] at vetted
        split at vetted
        · split at vetted
          · cases vetted
          · obtain ⟨_, -, vetted⟩ := bind_eq_ok_iff.mp vetted
            obtain ⟨later, vetted, -⟩ := bind_eq_ok_iff.mp vetted
            exact ⟨_, later, vetted⟩
        · split at vetted
          · exact ⟨_, _, vetted⟩
          · cases vetted
      obtain ⟨seen, later, vetted⟩ := rest
      obtain ⟨closed, those, rfl⟩ := ih vetted
      exact ⟨closed, (name, d) :: those, rfl⟩

theorem Vettable.of_append {fields : List Field} {depth : Nat} {seen : List String}
    {members others : List (String × Draft)}
    (vettable : Vettable fields depth seen (members ++ others)) :
    Vettable fields depth seen members := by
  intro name field found
  obtain ⟨fresh, said⟩ := vettable name field found
  simp only [AtMostOnce, Once, valuesOf_append, List.append_eq_nil_iff,
    List.append_eq_singleton_iff] at fresh said
  refine ⟨fun isSeen => (fresh isSeen).1, ?_⟩
  rcases said with ⟨absent, -⟩ | ⟨d, ⟨absent, -⟩ | ⟨once, -⟩, value⟩
  · exact .inl absent
  · exact .inl absent
  · exact .inr ⟨d, once, value⟩

/-- Behind members that are vettable, a field that does not take its value is the first
problem, and its refusal that of the whole object. -/
theorem vetMembers_of_unfit {fields : List Field} {depth : Nat} {seen : List String}
    {before : List (String × Draft)} (values : ∀ m ∈ before, m.2.isValue = true)
    (vettable : Vettable fields depth seen before) {name : String} {field : Field}
    (found : field? fields name = some field) (fresh : name ∉ seen)
    (unsaid : valuesOf before name = []) {d : Draft} {refusal : Refusal}
    (unfit : field.check depth d = .error refusal) (after : List (Option String × Draft))
    (tail : Tail) :
    vetMembers fields depth tail seen (before.map named ++ (some name, d) :: after) =
      .error refusal := by
  induction before generalizing seen with
  | nil => simp [vetMembers, found, fresh, unfit, bind, Except.bind]
  | cons m before ih =>
      obtain ⟨other, x⟩ := m
      obtain ⟨value, others⟩ := List.forall_mem_cons.mp values
      have differs : other ≠ name := by
        rintro rfl
        rw [valuesOf_cons_self] at unsaid
        cases unsaid
      rw [valuesOf_cons_of_ne differs] at unsaid
      cases otherFound : field? fields other with
      | none =>
          rw [vettable_cons_of_foreign otherFound] at vettable
          simp only [List.map_cons, List.cons_append, vetMembers, otherFound, value, if_true]
          exact ih others vettable fresh unsaid
      | some otherField =>
          obtain ⟨otherFresh, checked, vettable⟩ :=
            (vettable_cons_of_field otherFound x before).mp vettable
          have stillFresh : name ∉ other :: seen := by
            rw [List.mem_cons, not_or]
            exact ⟨differs.symm, fresh⟩
          simp only [List.map_cons, List.cons_append, vetMembers, otherFound, if_neg otherFresh,
            checked, ih others vettable stillFresh unsaid]
          rfl

/-- If the names of the fields are distinct, every field is vetted by its own name. -/
theorem vettable_iff_of_distinct {fields : List Field} {depth : Nat}
    {members : List (String × Draft)} (distinct : (fields.map Field.name).Nodup) :
    Vettable fields depth [] members ↔
      ∀ field ∈ fields, AtMostOnce members field.name fun d => field.check depth d = .ok () := by
  constructor
  · intro vettable field fieldMem
    exact (vettable field.name field ((field?_eq_some_iff distinct).mpr ⟨fieldMem, rfl⟩)).2
  · intro each name field found
    obtain ⟨fieldMem, rfl⟩ := (field?_eq_some_iff distinct).mp found
    exact ⟨fun isSeen => absurd isSeen List.not_mem_nil, each field fieldMem⟩

/-- An object is vetted as its members are. -/
theorem vet_object_eq_ok_iff {name : String} {fields : List Field} {depth : Nat}
    {members kept : List (String × Draft)} (deep : 1 < depth)
    (values : ∀ m ∈ members, m.2.isValue = true) :
    vet name fields depth (.object (members.map named) .closed) = .ok kept ↔
      Vettable fields (depth - 1) [] members ∧ kept = members.filter (isField fields) := by
  rw [vet, enter_of_deep deep, ← vetMembers_eq_ok_iff values]
  rfl

/-! ## Reading the fields -/

/-- The fields that are kept are looked up as the object says them. -/
theorem lookup_filter_isField {fields : List Field} {name : String} {field : Field}
    (found : field? fields name = some field) (members : List (String × Draft)) :
    (members.filter (isField fields)).lookup name = (valuesOf members name).head? := by
  have kept (d : Draft) : isField fields (name, d) = true := by simp [isField, found]
  rw [← valuesOf_filter kept]
  induction members.filter (isField fields) with
  | nil => rfl
  | cons m members ih =>
      obtain ⟨other, d⟩ := m
      by_cases same : other = name
      · subst same
        rw [List.lookup_cons_self, valuesOf_cons_self]
        rfl
      · rw [List.lookup_cons, beq_false_of_ne (Ne.symm same), valuesOf_cons_of_ne same, ih]

/-- Members that are no fields, and the order of those that are, do not change what is said
of a field. -/
theorem perm_valuesOf_of_fields {fields : List Field} {name : String}
    (known : (field? fields name).isSome = true) {members others : List (String × Draft)}
    (alike : (members.filter (isField fields)).Perm (others.filter (isField fields))) :
    (valuesOf members name).Perm (valuesOf others name) := by
  have kept (members : List (String × Draft)) :
      valuesOf (members.filter (isField fields)) name = valuesOf members name :=
    valuesOf_filter fun _ => known
  rw [← kept members, ← kept others]
  exact perm_valuesOf alike name

/-- A value that has to be there, or the refusal of the object that does not say it. -/
def demand (members : List (String × Draft)) (name : String) (a : α) : Except Refusal α :=
  if valuesOf members name = [] then .error (.misfit (.missing name)) else .ok a

/-- A value for an object that says all of some names, or the refusal of an object that
does not, which is about the first one that is absent. -/
def complete (members : List (String × Draft)) (names : List String) (a : α) :
    Except Refusal α :=
  match firstAbsent? members names with
  | none => .ok a
  | some name => .error (.misfit (.missing name))

theorem complete_eq_ok_iff {members : List (String × Draft)} {names : List String} {a b : α} :
    complete members names a = .ok b ↔ firstAbsent? members names = none ∧ a = b := by
  rw [complete]
  cases firstAbsent? members names <;> simp

/-- Demanding one value more puts its name in front. -/
theorem bind_demand {members : List (String × Draft)} {name : String} {a : α}
    {names : List String} {next : α → Except Refusal β} {b : β}
    (rest : next a = complete members names b) :
    (demand members name a >>= next) = complete members (name :: names) b := by
  by_cases absent : valuesOf members name = []
  · have first : firstAbsent? members (name :: names) = some name := by
      simp [firstAbsent?, absent]
    rw [demand, if_pos absent, complete, first]
    rfl
  · have later : firstAbsent? members (name :: names) = firstAbsent? members names := by
      simp [firstAbsent?, absent]
    rw [demand, if_neg absent, complete, later]
    exact rest

theorem required_eq_demand {fields : List Field} {name : String} {field : Field}
    (found : field? fields name = some field) {members : List (String × Draft)}
    {decode : Decoder α} {depth : Nat} {a : α}
    (said : AtMostOnce members name fun d => decode depth d = .ok a) :
    required (members.filter (isField fields)) name decode depth = demand members name a := by
  rw [required, lookup_filter_isField found, demand]
  rcases said with absent | ⟨d, once, read⟩
  · rw [absent, if_pos rfl]
    rfl
  · rw [once, if_neg (List.cons_ne_nil d [])]
    exact read

theorem required_of_once {fields : List Field} {name : String} {field : Field}
    (found : field? fields name = some field) {members : List (String × Draft)}
    {decode : Decoder α} {depth : Nat} {a : α}
    (once : Once members name fun d => decode depth d = .ok a) :
    required (members.filter (isField fields)) name decode depth = .ok a := by
  obtain ⟨d, said, read⟩ := once
  rw [required, lookup_filter_isField found, said]
  exact read

/-- A field that is there and is said at most once is said once. -/
theorem once_of_required {fields : List Field} {name : String} {field : Field}
    (found : field? fields name = some field) {members : List (String × Draft)}
    {holds : Draft → Prop} (said : AtMostOnce members name holds) {decode : Decoder α}
    {depth : Nat} {a : α}
    (read : required (members.filter (isField fields)) name decode depth = .ok a) :
    Once members name fun d => decode depth d = .ok a := by
  rw [required, lookup_filter_isField found] at read
  rcases said with absent | ⟨d, once, -⟩
  · rw [absent] at read
    cases read
  · rw [once] at read
    exact ⟨d, once, read⟩

theorem optional_of_absent {fields : List Field} {name : String} {field : Field}
    (found : field? fields name = some field) {members : List (String × Draft)}
    (unsaid : valuesOf members name = []) (decode : Decoder α) (absent : α) (depth : Nat) :
    optional (members.filter (isField fields)) name decode absent depth = .ok absent := by
  rw [optional, lookup_filter_isField found, unsaid]
  rfl

theorem optional_of_once {fields : List Field} {name : String} {field : Field}
    (found : field? fields name = some field) {members : List (String × Draft)}
    {decode : Decoder α} {depth : Nat} {a : α}
    (once : Once members name fun d => decode depth d = .ok a) (absent : α) :
    optional (members.filter (isField fields)) name decode absent depth = .ok a := by
  obtain ⟨d, said, read⟩ := once
  rw [optional, lookup_filter_isField found, said]
  exact read

section Nullable

variable {members : List (String × Draft)} {name : String} {decode : Decoder α} {depth : Nat}
  {holds : Draft → α → Prop} {o : Option α}

/-- A name that may be `null` is read as the object says it. -/
theorem optional_of_optionally {fields : List Field} {field : Field}
    (found : field? fields name = some field)
    (reads : ∀ d a, decode depth d = .ok a ↔ holds d a) (notNull : ∀ a, ¬ holds .null a)
    (said : Optionally members name holds o) :
    optional (members.filter (isField fields)) name (.nullable decode) none depth = .ok o := by
  cases o with
  | none =>
      rcases said with absent | isNull
      · exact optional_of_absent found absent _ _ _
      · exact optional_of_once found ⟨.null, isNull, rfl⟩ none
  | some a =>
      obtain ⟨d, once, value⟩ := said
      refine optional_of_once found ⟨d, once, Decoder.nullable_eq_ok_iff.mpr (.inr ?_)⟩ none
      refine ⟨?_, a, (reads d a).mpr value, rfl⟩
      rintro rfl
      exact notNull a value

theorem atMostOnce_of_optionally (reads : ∀ d a, decode depth d = .ok a ↔ holds d a)
    (notNull : ∀ a, ¬ holds .null a) (said : Optionally members name holds o) :
    AtMostOnce members name fun d => ∃ o, Decoder.nullable decode depth d = .ok o := by
  cases o with
  | none =>
      rcases said with absent | isNull
      · exact .inl absent
      · exact .inr ⟨.null, isNull, none, rfl⟩
  | some a =>
      obtain ⟨d, once, value⟩ := said
      refine .inr ⟨d, once, some a, Decoder.nullable_eq_ok_iff.mpr (.inr ⟨?_, a, ?_, rfl⟩)⟩
      · rintro rfl
        exact notNull a value
      · exact (reads d a).mpr value

theorem exists_optionally (reads : ∀ d a, decode depth d = .ok a ↔ holds d a)
    (said : AtMostOnce members name fun d => ∃ o, Decoder.nullable decode depth d = .ok o) :
    ∃ o, Optionally members name holds o := by
  rcases said with absent | ⟨d, once, o, read⟩
  · exact ⟨none, .inl absent⟩
  · rcases Decoder.nullable_eq_ok_iff.mp read with ⟨rfl, -⟩ | ⟨-, a, read, -⟩
    · exact ⟨none, .inr once⟩
    · exact ⟨some a, d, once, (reads d a).mp read⟩

end Nullable

end Record

end ControlPlane.Json
