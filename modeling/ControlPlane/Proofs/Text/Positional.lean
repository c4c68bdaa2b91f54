import ControlPlane.Proofs.Text.Basic
import Mathlib.Data.List.Forall2
import Mathlib.Data.List.Induction
import Mathlib.Data.Nat.Digits.Defs

/-!
# Positional notation

A run of digits of a base denotes the sum of its digits, each times the power of
the base that its position counts from the right.  The readers of numerals take
exactly the nonempty runs of digits, and they read the number that is denoted.
-/

namespace ControlPlane.Text

/-- The character `c` is a digit of value `d`, a letter in either case. -/
def IsDigit (base : Nat) (c : Char) (d : Nat) : Prop :=
  d < base ∧ (c = Nat.digitChar d ∨ c = (Nat.digitChar d).toUpper)

/-- A nonempty run of digits and the number that it denotes. -/
def Denotes (base : Nat) (s : List Char) (n : Nat) : Prop :=
  s ≠ [] ∧ ∃ digits, List.Forall₂ (IsDigit base) s digits ∧ Nat.ofDigits base digits.reverse = n

/-! ## Single digits -/

/-- No decimal digit is a letter, so it has one form only. -/
theorem isDigit_ten_iff {c : Char} {d : Nat} : IsDigit 10 c d ↔ d < 10 ∧ c = Nat.digitChar d := by
  have oneForm : ∀ d < 10, (Nat.digitChar d).toUpper = Nat.digitChar d := by decide
  constructor
  · rintro ⟨small, rfl | rfl⟩
    · exact ⟨small, rfl⟩
    · exact ⟨small, oneForm d small⟩
  · rintro ⟨small, rfl⟩
    exact ⟨small, .inl rfl⟩

theorem decimalDigit?_eq_some_iff {c : Char} {d : Nat} :
    decimalDigit? c = some d ↔ IsDigit 10 c d := by
  rw [isDigit_ten_iff]
  constructor
  · exact eq_digitChar_of_decimalDigit?
  · rintro ⟨small, rfl⟩
    exact decimalDigit?_digitChar small

theorem hexDigit?_toUpper_digitChar {d : Nat} (small : d < 16) :
    hexDigit? (Nat.digitChar d).toUpper = some d := by
  have all : ∀ d < 16, hexDigit? (Nat.digitChar d).toUpper = some d := by decide
  exact all d small

/-- A character with a hexadecimal value lies in one of three ranges, and its value
is its place in the range. -/
theorem hexDigit?_cases {c : Char} {d : Nat} (read : hexDigit? c = some d) :
    (c.toNat = d + 48 ∧ d < 10) ∨ (c.toNat = d + 87 ∧ 10 ≤ d ∧ d < 16) ∨
      (c.toNat = d + 55 ∧ 10 ≤ d ∧ d < 16) := by
  unfold hexDigit? at read
  split at read
  · next within =>
      have low : 48 ≤ c.toNat := within.1
      have high : c.toNat ≤ 57 := within.2
      have value : c.toNat - 48 = d := Option.some.inj read
      omega
  split at read
  · next within =>
      have low : 97 ≤ c.toNat := within.1
      have high : c.toNat ≤ 102 := within.2
      have value : c.toNat - 97 + 10 = d := Option.some.inj read
      omega
  split at read
  · next within =>
      have low : 65 ≤ c.toNat := within.1
      have high : c.toNat ≤ 70 := within.2
      have value : c.toNat - 65 + 10 = d := Option.some.inj read
      omega
  · cases read

theorem hexDigit?_eq_some_iff {c : Char} {d : Nat} : hexDigit? c = some d ↔ IsDigit 16 c d := by
  have digits : ∀ d < 10, (Nat.digitChar d).toNat = d + 48 := by decide
  have small : ∀ d < 16, 10 ≤ d → (Nat.digitChar d).toNat = d + 87 := by decide
  have large : ∀ d < 16, 10 ≤ d → (Nat.digitChar d).toUpper.toNat = d + 55 := by decide
  constructor
  · intro read
    rcases hexDigit?_cases read with ⟨place, isDigit⟩ | ⟨place, low, high⟩ | ⟨place, low, high⟩
    · exact ⟨by omega, .inl (Char.toNat_inj.mp (place.trans (digits d isDigit).symm))⟩
    · exact ⟨high, .inl (Char.toNat_inj.mp (place.trans (small d high low).symm))⟩
    · exact ⟨high, .inr (Char.toNat_inj.mp (place.trans (large d high low).symm))⟩
  · rintro ⟨small, rfl | rfl⟩
    · exact hexDigit?_digitChar small
    · exact hexDigit?_toUpper_digitChar small

/-! ## Runs of digits -/

theorem mapM_eq_some_iff_forall₂ {read? : Char → Option Nat} {s : List Char} {digits : List Nat} :
    s.mapM read? = some digits ↔ List.Forall₂ (fun c d => read? c = some d) s digits := by
  induction s generalizing digits with
  | nil =>
      rw [List.forall₂_nil_left_iff]
      exact ⟨fun read => (Option.some.inj read).symm, fun empty => congrArg some empty.symm⟩
  | cons c s ih =>
      rw [List.mapM_cons, List.forall₂_cons_left_iff]
      constructor
      · intro read
        obtain ⟨d, first, read⟩ := Option.bind_eq_some_iff.mp read
        obtain ⟨others, rest, read⟩ := Option.bind_eq_some_iff.mp read
        exact ⟨d, others, first, ih.mp rest, (Option.some.inj read).symm⟩
      · rintro ⟨d, others, first, rest, rfl⟩
        rw [first, ih.mpr rest]
        rfl

/-- Reading digits from the left gives their positional value. -/
theorem ofDigits_eq (base : Nat) (digits : List Nat) :
    ofDigits base digits = Nat.ofDigits base digits.reverse := by
  induction digits using List.reverseRecOn with
  | nil => rfl
  | append_singleton digits d ih =>
      rw [ofDigits_append_singleton, ih, List.reverse_append, List.reverse_singleton,
        List.singleton_append, Nat.ofDigits_cons, Nat.mul_comm, Nat.add_comm]

/-- A run is read to the number that it denotes, if every digit is read to its value. -/
theorem digitsValue?_eq_some_iff {read? : Char → Option Nat} {base : Nat}
    (digit : ∀ {c d}, read? c = some d ↔ IsDigit base c d) {s : List Char} {n : Nat} :
    digitsValue? read? base s = some n ↔ Denotes base s n := by
  have runs {digits : List Nat} :
      s.mapM read? = some digits ↔ List.Forall₂ (IsDigit base) s digits := by
    simp only [mapM_eq_some_iff_forall₂, digit]
  rw [digitsValue?, Denotes]
  by_cases empty : s = []
  · simp [empty]
  · rw [if_neg empty, Option.map_eq_some_iff, and_iff_right empty]
    simp only [runs, ofDigits_eq]

theorem decimalValue?_eq_some_iff {s : List Char} {n : Nat} :
    decimalValue? s = some n ↔ Denotes 10 s n :=
  digitsValue?_eq_some_iff decimalDigit?_eq_some_iff

theorem hexValue?_eq_some_iff {s : List Char} {n : Nat} :
    hexValue? s = some n ↔ Denotes 16 s n :=
  digitsValue?_eq_some_iff hexDigit?_eq_some_iff

/-- A run of digits consists of digits. -/
theorem Denotes.exists_isDigit {base n : Nat} {s : List Char} (denotes : Denotes base s n)
    {c : Char} (cMem : c ∈ s) : ∃ d, IsDigit base c d := by
  obtain ⟨-, digits, run, -⟩ := denotes
  induction run with
  | nil => exact absurd cMem List.not_mem_nil
  | cons first _ ih =>
      rcases List.mem_cons.mp cMem with rfl | isLater
      · exact ⟨_, first⟩
      · exact ih isLater

end ControlPlane.Text
