/-!
# What happened last

A history grows at its end, and what holds after it is decided by the latest
element that says something about it.  `lastMatch?` looks for that element, and
`standing?` asks besides that nothing after it has undone it; `Stands` says the
same without a search.  All keep the elements that came since.
-/

namespace ControlPlane

variable {α β : Type}

/-- The last element of a list that has a value: the value, and the elements
after it. -/
def lastMatch? (value? : α → Option β) : List α → Option (β × List α)
  | [] => none
  | x :: rest =>
      match lastMatch? value? rest with
      | some found => some found
      | none => (value? x).map fun y => (y, rest)

/-- Something began at some place of a list, and in the part after that place
nothing has begun or ended. -/
def Stands (begins? : α → Option β) (ends : α → Bool) (xs : List α) (y : β)
    (after : List α) : Prop :=
  ∃ before x, xs = before ++ x :: after ∧ begins? x = some y ∧
    ∀ later ∈ after, begins? later = none ∧ ends later = false

/-- What the last beginning of a list began, and the elements after it, unless
one of them is an end. -/
def standing? (begins? : α → Option β) (ends : α → Bool) (xs : List α) :
    Option (β × List α) :=
  (lastMatch? begins? xs).filter fun found => !found.2.any ends

/-- What was found, when one more element has come since. -/
def withLater (x : α) (found : β × List α) : β × List α :=
  (found.1, found.2 ++ [x])

/-! ## Last matches -/

theorem lastMatch?_eq_none_iff {value? : α → Option β} {xs : List α} :
    lastMatch? value? xs = none ↔ ∀ x ∈ xs, value? x = none := by
  induction xs with
  | nil => simp [lastMatch?]
  | cons x rest ih =>
      rw [lastMatch?]
      cases found : lastMatch? value? rest with
      | none =>
          have nothing := ih.mp found
          simp only [Option.map_eq_none_iff, List.mem_cons, forall_eq_or_imp]
          exact ⟨fun absent => ⟨absent, nothing⟩, And.left⟩
      | some later =>
          have something : ¬∀ z ∈ rest, value? z = none := by
            intro nothing
            rw [ih.mpr nothing] at found
            contradiction
          simp [something]

/-- The last match splits the list where the value stands for the last time. -/
theorem lastMatch?_eq_some_iff {value? : α → Option β} {xs after : List α} {y : β} :
    lastMatch? value? xs = some (y, after) ↔
      ∃ before x, xs = before ++ x :: after ∧ value? x = some y ∧
        ∀ later ∈ after, value? later = none := by
  induction xs with
  | nil => simp [lastMatch?]
  | cons first rest ih =>
      rw [lastMatch?]
      cases found : lastMatch? value? rest with
      | none =>
          have nothing := lastMatch?_eq_none_iff.mp found
          constructor
          · intro matched
            obtain ⟨z, valueEq, pairEq⟩ := Option.map_eq_some_iff.mp matched
            obtain ⟨rfl, rfl⟩ := Prod.mk.inj pairEq
            exact ⟨[], first, rfl, valueEq, nothing⟩
          · rintro ⟨before, x, split, valueEq, -⟩
            cases before with
            | nil =>
                obtain ⟨rfl, rfl⟩ := List.cons.inj split
                rw [valueEq]
                rfl
            | cons head before =>
                obtain ⟨rfl, rfl⟩ := List.cons.inj split
                have absent := nothing x (by simp)
                rw [valueEq] at absent
                contradiction
      | some later =>
          rw [found] at ih
          rw [ih]
          constructor
          · rintro ⟨before, x, rfl, valueEq, nothing⟩
            exact ⟨first :: before, x, rfl, valueEq, nothing⟩
          · rintro ⟨before, x, split, valueEq, nothing⟩
            cases before with
            | nil =>
                obtain ⟨rfl, rfl⟩ := List.cons.inj split
                rw [lastMatch?_eq_none_iff.mpr nothing] at found
                contradiction
            | cons head before =>
                obtain ⟨rfl, rfl⟩ := List.cons.inj split
                exact ⟨before, x, rfl, valueEq, nothing⟩

/-- One more element is the last match, or comes after it. -/
theorem lastMatch?_append_singleton (value? : α → Option β) (xs : List α) (x : α) :
    lastMatch? value? (xs ++ [x]) =
      match value? x with
      | some y => some (y, [])
      | none => (lastMatch? value? xs).map (withLater x) := by
  induction xs with
  | nil =>
      simp only [List.nil_append, lastMatch?]
      cases value? x <;> rfl
  | cons first rest ih =>
      rw [List.cons_append, lastMatch?, ih, lastMatch?]
      cases value? x with
      | some y => rfl
      | none =>
          cases lastMatch? value? rest with
          | some found => rfl
          | none => cases value? first <;> rfl

/-! ## What still stands -/

theorem standing?_eq_some_iff {begins? : α → Option β} {ends : α → Bool}
    {xs after : List α} {y : β} :
    standing? begins? ends xs = some (y, after) ↔ Stands begins? ends xs y after := by
  rw [standing?, Option.filter_eq_some_iff, lastMatch?_eq_some_iff]
  constructor
  · rintro ⟨⟨before, x, split, beginning, nothing⟩, unended⟩
    refine ⟨before, x, split, beginning, fun later laterMem => ⟨nothing later laterMem, ?_⟩⟩
    simpa using List.any_eq_false.mp (Bool.not_eq_true' _ ▸ unended) later laterMem
  · rintro ⟨before, x, split, beginning, quiet⟩
    refine ⟨⟨before, x, split, beginning, fun later laterMem => (quiet later laterMem).1⟩, ?_⟩
    simpa using fun later laterMem => (quiet later laterMem).2

section

variable {begins? : α → Option β} {ends : α → Bool} {xs : List α} {x : α}

theorem standing?_append_begin {y : β} (beginning : begins? x = some y) :
    standing? begins? ends (xs ++ [x]) = some (y, []) := by
  rw [standing?, lastMatch?_append_singleton, beginning]
  rfl

theorem standing?_append_end (nothing : begins? x = none) (ending : ends x = true) :
    standing? begins? ends (xs ++ [x]) = none := by
  rw [standing?, lastMatch?_append_singleton, nothing]
  cases lastMatch? begins? xs with
  | none => rfl
  | some found => simp [withLater, ending]

theorem standing?_append_other (nothing : begins? x = none) (going : ends x = false) :
    standing? begins? ends (xs ++ [x]) = (standing? begins? ends xs).map (withLater x) := by
  rw [standing?, standing?, lastMatch?_append_singleton, nothing]
  cases lastMatch? begins? xs with
  | none => rfl
  | some found =>
      cases ended : found.2.any ends <;> simp [withLater, going, ended, Option.filter]

end

end ControlPlane
