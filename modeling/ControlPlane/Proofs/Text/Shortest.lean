import ControlPlane.Proofs.Text.Positional
import Mathlib.Data.Nat.Digits.Lemmas

/-!
# Shortest numerals

Of all the numerals of a number one is in small letters and has no zero in front, unless
it is the zero.  It is the one that is written.
-/

namespace ControlPlane.Text

/-- A numeral of a number in small letters, which begins with a zero only if there is
nothing else. -/
structure IsShortest (base : Nat) (s : List Char) (n : Nat) : Prop where
  denotes : Denotes base s n
  small : ∀ c ∈ s, c.toLower = c
  zero : s.head? = some '0' → s = ['0']

section

variable {base n : Nat}

/-- A positive number is written with its digits, the most significant one first. -/
theorem toDigits_eq_map_digits (large : 1 < base) (positive : 0 < n) :
    Nat.toDigits base n = (Nat.digits base n).reverse.map Nat.digitChar := by
  induction n using Nat.base_induction base large with
  | single n isDigit =>
      rw [Nat.toDigits_of_lt_base isDigit, Nat.digits_of_lt base n (Nat.ne_of_gt positive) isDigit]
      rfl
  | digit n d isDigit front ih =>
      rw [← Nat.toDigits_append_toDigits large front isDigit, ih front,
        Nat.toDigits_of_lt_base isDigit, Nat.add_comm,
        Nat.digits_add base large d n isDigit (.inr (Nat.ne_of_gt front)), List.reverse_cons,
        List.map_append]
      rfl

/-- In small letters a digit has one form only. -/
theorem IsDigit.eq_digitChar (known : base ≤ 16) {c : Char} {d : Nat} (isDigit : IsDigit base c d)
    (small : c.toLower = c) : c = Nat.digitChar d := by
  have back : ∀ d < 16, (Nat.digitChar d).toUpper.toLower = Nat.digitChar d := by decide
  obtain ⟨below, rfl | rfl⟩ := isDigit
  · rfl
  · rw [← small]
    exact back d (Nat.lt_of_lt_of_le below known)

/-- A run in small letters is written with its digits. -/
theorem eq_map_digitChar_of_small (known : base ≤ 16) {s : List Char} {digits : List Nat}
    (run : List.Forall₂ (IsDigit base) s digits) (small : ∀ c ∈ s, c.toLower = c) :
    (∀ d ∈ digits, d < base) ∧ s = digits.map Nat.digitChar := by
  induction run with
  | nil => exact ⟨fun d dMem => absurd dMem List.not_mem_nil, rfl⟩
  | cons first _ ih =>
      rw [List.forall_mem_cons] at small
      obtain ⟨below, others⟩ := ih small.2
      exact ⟨List.forall_mem_cons.mpr ⟨first.1, below⟩,
        by rw [List.map_cons, ← first.eq_digitChar known small.1, ← others]⟩

theorem forall₂_isDigit_map_digitChar {digits : List Nat} (below : ∀ d ∈ digits, d < base) :
    List.Forall₂ (IsDigit base) (digits.map Nat.digitChar) digits := by
  rw [List.forall₂_map_left_iff, List.forall₂_same]
  exact fun d dMem => ⟨below d dMem, .inl rfl⟩

/-- What is written for a number is its shortest numeral. -/
theorem isShortest_toDigits (large : 1 < base) (known : base ≤ 16) (n : Nat) :
    IsShortest base (Nat.toDigits base n) n := by
  have smallDigit : ∀ d < 16, (Nat.digitChar d).toLower = Nat.digitChar d := by decide
  have zeroDigit : ∀ d < 16, Nat.digitChar d = '0' → d = 0 := by decide
  rcases Nat.eq_zero_or_pos n with rfl | positive
  · have isZero : Nat.toDigits base 0 = ['0'] := Nat.toDigits_of_lt_base (Nat.lt_of_succ_lt large)
    rw [isZero]
    have below : ∀ d ∈ [0], d < base := List.forall_mem_singleton.mpr (Nat.lt_of_succ_lt large)
    have run := forall₂_isDigit_map_digitChar below
    exact ⟨⟨List.cons_ne_nil _ _, [0], run, rfl⟩, List.forall_mem_singleton.mpr (by decide),
      fun _ => rfl⟩
  · have nonempty : Nat.digits base n ≠ [] :=
      Nat.digits_ne_nil_iff_ne_zero.mpr (Nat.ne_of_gt positive)
    have below : ∀ d ∈ (Nat.digits base n).reverse, d < base :=
      fun d dMem => Nat.digits_lt_base large (List.mem_reverse.mp dMem)
    rw [toDigits_eq_map_digits large positive]
    refine ⟨⟨?nonempty, _, forall₂_isDigit_map_digitChar below, ?value⟩, ?small, ?zero⟩
    case nonempty => simpa using nonempty
    case value => rw [List.reverse_reverse, Nat.ofDigits_digits]
    case small =>
      intro c cMem
      obtain ⟨d, dMem, rfl⟩ := List.mem_map.mp cMem
      exact smallDigit d (Nat.lt_of_lt_of_le (below d dMem) known)
    case zero =>
      intro first
      rw [List.head?_map, List.head?_reverse, List.getLast?_eq_some_getLast nonempty,
        Option.map_some, Option.some.injEq] at first
      have digit := Nat.digits_lt_base large (List.getLast_mem nonempty)
      exact absurd (zeroDigit _ (Nat.lt_of_lt_of_le digit known) first)
        (Nat.getLast_digit_ne_zero base (Nat.ne_of_gt positive))

/-- Digits that begin with no zero are those of the number that they denote. -/
theorem toDigits_ofDigits (large : 1 < base) {d : Nat} {digits : List Nat} (notZero : d ≠ 0)
    (below : ∀ other ∈ d :: digits, other < base) :
    Nat.toDigits base (Nat.ofDigits base (d :: digits).reverse) =
      (d :: digits).map Nat.digitChar := by
  have last : ∀ nonempty, (d :: digits).reverse.getLast nonempty ≠ 0 := by
    intro nonempty
    rwa [List.getLast_reverse, List.head_cons]
  have digitsOf := Nat.digits_ofDigits base large (d :: digits).reverse
    (fun other otherMem => below other (List.mem_reverse.mp otherMem)) last
  have positive : 0 < Nat.ofDigits base (d :: digits).reverse := by
    apply Nat.pos_of_ne_zero
    rw [← Nat.digits_ne_nil_iff_ne_zero, digitsOf]
    simp
  rw [toDigits_eq_map_digits large positive, digitsOf, List.reverse_reverse]

/-- A number has one shortest numeral: the one that is written. -/
theorem isShortest_iff (large : 1 < base) (known : base ≤ 16) {s : List Char} :
    IsShortest base s n ↔ s = Nat.toDigits base n := by
  constructor
  · rintro ⟨⟨nonempty, digits, run, rfl⟩, small, zero⟩
    obtain ⟨below, rfl⟩ := eq_map_digitChar_of_small known run small
    cases digits with
    | nil => exact absurd rfl nonempty
    | cons d digits =>
        by_cases isZero : d = 0
        · -- A zero in front is all there is.
          have alone := zero (by rw [isZero]; rfl)
          rw [List.map_cons, List.cons_eq_cons, List.map_eq_nil_iff] at alone
          rw [isZero, alone.2]
          exact (Nat.toDigits_of_lt_base (Nat.lt_of_succ_lt large)).symm
        · exact (toDigits_ofDigits large isZero below).symm
  · rintro rfl
    exact isShortest_toDigits large known n

end

end ControlPlane.Text
