import Mathlib.Data.List.Forall2

/-!
# Results that succeed

A computation in steps succeeds if every step does, each one with what the steps before it
gave.  Of items that are taken one after another, the first that fails decides.
-/

namespace ControlPlane

variable {ε α β : Type}

theorem map_eq_ok_iff {result : Except ε α} {f : α → β} {b : β} :
    result.map f = .ok b ↔ ∃ a, result = .ok a ∧ f a = b := by
  cases result <;> simp [Except.map]

theorem bind_eq_ok_iff {result : Except ε α} {next : α → Except ε β} {b : β} :
    (result >>= next) = .ok b ↔ ∃ a, result = .ok a ∧ next a = .ok b := by
  cases result <;> simp [bind, Except.bind]

theorem bind_eq_error_iff {result : Except ε α} {next : α → Except ε β} {e : ε} :
    (result >>= next) = .error e ↔
      result = .error e ∨ ∃ a, result = .ok a ∧ next a = .error e := by
  cases result <;> simp [bind, Except.bind]

section

variable {take : α → Except ε β} {items : List α}

/-- All items are taken if each one is. -/
theorem mapM_eq_ok_iff {results : List β} :
    items.mapM take = .ok results ↔ List.Forall₂ (fun a b => take a = .ok b) items results := by
  induction items generalizing results with
  | nil =>
      rw [List.forall₂_nil_left_iff]
      exact ⟨fun taken => (Except.ok.inj taken).symm, fun isNil => congrArg Except.ok isNil.symm⟩
  | cons a items ih =>
      rw [List.mapM_cons, bind_eq_ok_iff, List.forall₂_cons_left_iff]
      constructor
      · rintro ⟨b, first, taken⟩
        obtain ⟨others, rest, taken⟩ := bind_eq_ok_iff.mp taken
        exact ⟨b, others, first, ih.mp rest, (Except.ok.inj taken).symm⟩
      · rintro ⟨b, others, first, rest, rfl⟩
        refine ⟨b, first, ?_⟩
        rw [ih.mpr rest]
        rfl

/-- Taking fails with the error of the first item that cannot be taken. -/
theorem mapM_eq_error_iff {e : ε} :
    items.mapM take = .error e ↔
      ∃ before a after, items = before ++ a :: after ∧
        (∀ b ∈ before, ∃ result, take b = .ok result) ∧ take a = .error e := by
  induction items with
  | nil => simp [pure, Except.pure]
  | cons first rest ih =>
      have passesOn {b : β} {e : ε} :
          (rest.mapM take >>= fun others => pure (b :: others)) = .error e ↔
            rest.mapM take = .error e := by
        rw [bind_eq_error_iff]
        simp [pure, Except.pure]
      rw [List.mapM_cons, bind_eq_error_iff]
      simp only [passesOn, ih]
      constructor
      · rintro (failed | ⟨b, taken, before, a, after, rfl, passed, failed⟩)
        · exact ⟨[], first, rest, rfl, by simp, failed⟩
        · refine ⟨first :: before, a, after, rfl, ?_, failed⟩
          exact List.forall_mem_cons.mpr ⟨⟨b, taken⟩, passed⟩
      · rintro ⟨before, a, after, split, passed, failed⟩
        cases before with
        | nil =>
            obtain ⟨rfl, -⟩ := List.cons.inj split
            exact .inl failed
        | cons head before =>
            obtain ⟨rfl, rfl⟩ := List.cons.inj split
            obtain ⟨⟨b, taken⟩, passed⟩ := List.forall_mem_cons.mp passed
            exact .inr ⟨b, taken, before, a, after, rfl, passed, failed⟩

theorem exists_mapM_eq_ok_iff :
    (∃ results, items.mapM take = .ok results) ↔ ∀ a ∈ items, ∃ b, take a = .ok b := by
  constructor
  · rintro ⟨results, taken⟩
    rw [mapM_eq_ok_iff] at taken
    induction taken with
    | nil => simp
    | cons head _ ih => exact List.forall_mem_cons.mpr ⟨⟨_, head⟩, ih⟩
  · intro all
    cases taken : items.mapM take with
    | ok results => exact ⟨results, rfl⟩
    | error e =>
        obtain ⟨before, a, after, rfl, -, failed⟩ := mapM_eq_error_iff.mp taken
        obtain ⟨b, took⟩ := all a (by simp)
        rw [failed] at took
        cases took

end

end ControlPlane
