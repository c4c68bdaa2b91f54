import ControlPlane.Number.Decimal
import ControlPlane.Text.Basic
import Mathlib.Logic.Basic

/-!
# Texts in parts, and the digits of numbers

No part of a text that is cut has a mark in it, and with marks between them the
parts are the text again.

The numeral of a natural number has digits below ten, begins with a zero only if
it is the numeral of zero, and denotes the number.  Written as characters, the
digits are read back.
-/

namespace ControlPlane

namespace Text

/-! ## Parts -/

section

variable {mark : Char} {s : List Char}

/-- Cutting a text is splitting a list. -/
theorem cut_eq_splitOn (mark : Char) (s : List Char) : cut mark s = s.splitOn mark := by
  induction s with
  | nil => rfl
  | cons c rest ih =>
      rw [cut, ih, List.splitOn_cons_eq_if_modifyHead]
      by_cases isMark : c = mark
      · simp [isMark]
      · rw [if_neg isMark, if_neg (by simpa using isMark)]
        cases parts : rest.splitOn mark with
        | nil => exact absurd parts (List.splitOn_ne_nil mark rest)
        | cons first others => rfl

theorem cut_of_not_mem (whole : mark ∉ s) : cut mark s = [s] := by
  rw [cut_eq_splitOn]
  exact List.splitOn_eq_singleton whole

theorem cut_append_of_not_mem (whole : mark ∉ s) (rest : List Char) :
    cut mark (s ++ mark :: rest) = s :: cut mark rest := by
  rw [cut_eq_splitOn, cut_eq_splitOn]
  exact List.splitOn_append_cons_self_of_not_mem whole rest

/-- The parts joined by marks are the text again. -/
theorem intercalate_cut (mark : Char) (s : List Char) : [mark].intercalate (cut mark s) = s := by
  rw [cut_eq_splitOn]
  exact List.intercalate_splitOn mark

/-- No mark is left in a part. -/
theorem not_mem_of_mem_cut {part : List Char} (partMem : part ∈ cut mark s) : mark ∉ part := by
  induction s generalizing part with
  | nil => simp_all [cut]
  | cons c rest ih =>
      rw [cut] at partMem
      by_cases isMark : c = mark
      · rw [if_pos isMark] at partMem
        rcases List.mem_cons.mp partMem with rfl | partMem
        · exact List.not_mem_nil
        · exact ih partMem
      · rw [if_neg isMark] at partMem
        cases parts : cut mark rest with
        | nil =>
            rw [parts] at partMem
            simp_all [Ne.symm isMark]
        | cons first others =>
            rw [parts] at partMem ih
            rcases List.mem_cons.mp partMem with rfl | partMem
            · have notFirst : mark ∉ first := ih List.mem_cons_self
              simp [Ne.symm isMark, notFirst]
            · exact ih (List.mem_cons_of_mem _ partMem)

end

/-! ## Digits and characters -/

theorem decimalDigit?_digitChar {d : Nat} (digit : d < 10) :
    decimalDigit? (Nat.digitChar d) = some d := by
  have all : ∀ d < 10, decimalDigit? (Nat.digitChar d) = some d := by decide
  exact all d digit

theorem hexDigit?_digitChar {d : Nat} (digit : d < 16) :
    hexDigit? (Nat.digitChar d) = some d := by
  have all : ∀ d < 16, hexDigit? (Nat.digitChar d) = some d := by decide
  exact all d digit

/-- A number of two hexadecimal digits: both are read back, and they denote it. -/
theorem hexDigit?_digitChar_div_mod {n : Nat} (small : n < 0x100) :
    hexDigit? (Nat.digitChar (n / 16)) = some (n / 16) ∧
      hexDigit? (Nat.digitChar (n % 16)) = some (n % 16) ∧ ofDigits 16 [n / 16, n % 16] = n := by
  refine ⟨hexDigit?_digitChar (by omega), hexDigit?_digitChar (by omega), ?_⟩
  change (0 * 16 + n / 16) * 16 + n % 16 = n
  omega

theorem mapM_decimalDigit?_digitChar {digits : List Nat} (small : ∀ d ∈ digits, d < 10) :
    (digits.map Nat.digitChar).mapM decimalDigit? = some digits := by
  induction digits with
  | nil => rfl
  | cons d rest ih =>
      have first := decimalDigit?_digitChar (small d List.mem_cons_self)
      have others := ih fun other otherMem => small other (List.mem_cons_of_mem d otherMem)
      rw [List.map_cons, List.mapM_cons, first, others]
      rfl

/-- A character with a value is a digit. -/
theorem eq_digitChar_of_decimalDigit? {c : Char} {d : Nat} (read : decimalDigit? c = some d) :
    d < 10 ∧ c = Nat.digitChar d := by
  unfold decimalDigit? at read
  split at read
  · next within =>
      have low : 48 ≤ c.toNat := within.1
      have high : c.toNat ≤ 57 := within.2
      have value : c.toNat - 48 = d := Option.some.inj read
      have small : d < 10 := by omega
      have same : c.toNat = (Nat.digitChar d).toNat := by
        rw [Nat.toNat_digitChar_of_lt_ten small]
        omega
      exact ⟨small, Char.toNat_inj.mp same⟩
  · cases read

/-- A run that has digit values is written with digits only. -/
theorem eq_map_digitChar_of_mapM_decimalDigit? {s : List Char} {digits : List Nat}
    (read : s.mapM decimalDigit? = some digits) :
    (∀ d ∈ digits, d < 10) ∧ s = digits.map Nat.digitChar := by
  induction s generalizing digits with
  | nil =>
      cases Option.some.inj read
      exact ⟨fun d dMem => absurd dMem List.not_mem_nil, rfl⟩
  | cons c s ih =>
      rw [List.mapM_cons] at read
      obtain ⟨d, first, read⟩ := Option.bind_eq_some_iff.mp read
      obtain ⟨others, rest, read⟩ := Option.bind_eq_some_iff.mp read
      cases Option.some.inj read
      obtain ⟨small, isDigit⟩ := eq_digitChar_of_decimalDigit? first
      obtain ⟨othersSmall, areDigits⟩ := ih rest
      exact ⟨List.forall_mem_cons.mpr ⟨small, othersSmall⟩,
        by rw [List.map_cons, ← isDigit, ← areDigits]⟩

theorem ofDigits_append_singleton (base d : Nat) (digits : List Nat) :
    ofDigits base (digits ++ [d]) = ofDigits base digits * base + d := by
  simp [ofDigits]

end Text

namespace Number.Numeral

theorem whole_ofNat_of_lt_ten {d : Nat} (small : d < 10) : (ofNat d).whole = [d] := by
  simp only [ofNat, Nat.toDigits_of_lt_base small, List.map_singleton]
  exact congrArg ([·]) (Nat.toNat_digitChar_sub_48_of_lt_ten small)

/-- One more digit at the end of a number is one more digit of its numeral. -/
theorem whole_ofNat_append {n d : Nat} (positive : 0 < n) (small : d < 10) :
    (ofNat (10 * n + d)).whole = (ofNat n).whole ++ [d] := by
  rw [← whole_ofNat_of_lt_ten small]
  simp only [ofNat]
  rw [← Nat.toDigits_append_toDigits (by decide) positive small, List.map_append]

theorem lt_ten_of_mem_whole_ofNat (n : Nat) : ∀ d ∈ (ofNat n).whole, d < 10 := by
  induction n using Nat.base_induction 10 (by decide) with
  | single n small =>
      rw [whole_ofNat_of_lt_ten small]
      simpa using small
  | digit n d small positive ih =>
      rw [whole_ofNat_append positive small]
      intro other otherMem
      rcases List.mem_append.mp otherMem with inFront | isLast
      · exact ih other inFront
      · rw [List.mem_singleton.mp isLast]
        exact small

/-- The digits of a number denote it. -/
theorem ofDigits_whole_ofNat (n : Nat) : Text.ofDigits 10 (ofNat n).whole = n := by
  induction n using Nat.base_induction 10 (by decide) with
  | single n small =>
      rw [whole_ofNat_of_lt_ten small]
      simp [Text.ofDigits]
  | digit n d small positive ih =>
      rw [whole_ofNat_append positive small, Text.ofDigits_append_singleton, ih, Nat.mul_comm]

/-- Only the numeral of zero begins with a zero. -/
theorem whole_ofNat_eq_zero_or_cons (n : Nat) :
    (ofNat n).whole = [0] ∨ ∃ d rest, d ≠ 0 ∧ (ofNat n).whole = d :: rest := by
  induction n using Nat.base_induction 10 (by decide) with
  | single n small =>
      rw [whole_ofNat_of_lt_ten small]
      by_cases isZero : n = 0
      · exact .inl (congrArg ([·]) isZero)
      · exact .inr ⟨n, [], isZero, rfl⟩
  | digit n d small positive ih =>
      rw [whole_ofNat_append positive small]
      right
      rcases ih with isZero | ⟨first, rest, nonzero, digits⟩
      · have denoted := ofDigits_whole_ofNat n
        rw [isZero] at denoted
        exact absurd denoted.symm (Nat.ne_of_gt positive)
      · exact ⟨first, rest ++ [d], nonzero, by rw [digits, List.cons_append]⟩

/-- A number written in decimal is its digits as characters. -/
theorem map_digitChar_whole_ofNat (n : Nat) :
    (ofNat n).whole.map Nat.digitChar = Text.decimal n := by
  induction n using Nat.base_induction 10 (by decide) with
  | single n small =>
      rw [whole_ofNat_of_lt_ten small, Text.decimal, Nat.toDigits_of_lt_base small]
      rfl
  | digit n d small positive ih =>
      rw [whole_ofNat_append positive small, List.map_append, ih, Text.decimal, Text.decimal,
        ← Nat.toDigits_append_toDigits (by decide) positive small, Nat.toDigits_of_lt_base small]
      rfl

end Number.Numeral

namespace Text

open ControlPlane.Number.Numeral

/-- A number written in decimal is read back. -/
theorem decimalValue?_decimal (n : Nat) : decimalValue? (decimal n) = some n := by
  have nonempty : decimal n ≠ [] := Nat.toDigits_ne_nil
  have read := mapM_decimalDigit?_digitChar (lt_ten_of_mem_whole_ofNat n)
  rw [map_digitChar_whole_ofNat] at read
  rw [decimalValue?, digitsValue?, if_neg nonempty, read, Option.map_some, ofDigits_whole_ofNat]

/-- Every character of a number written in decimal is a digit. -/
theorem exists_digit_of_mem_decimal {n : Nat} {c : Char} (cMem : c ∈ decimal n) :
    ∃ d < 10, c = Nat.digitChar d := by
  rw [← map_digitChar_whole_ofNat] at cMem
  obtain ⟨d, dMem, rfl⟩ := List.mem_map.mp cMem
  exact ⟨d, lt_ten_of_mem_whole_ofNat n d dMem, rfl⟩

/-- No other character stands in a number written in decimal. -/
theorem not_mem_decimal {c : Char} (foreign : isDecimal c = false) (n : Nat) : c ∉ decimal n := by
  intro cMem
  obtain ⟨d, small, rfl⟩ := exists_digit_of_mem_decimal cMem
  rw [isDecimal, decimalDigit?_digitChar small] at foreign
  exact Bool.noConfusion foreign

/-- Different numbers are written differently. -/
theorem decimalText_injective {m n : Nat} (same : decimalText m = decimalText n) : m = n := by
  have chars : decimal m = decimal n := String.ofList_injective same
  have read := congrArg decimalValue? chars
  rw [decimalValue?_decimal, decimalValue?_decimal] at read
  exact Option.some.inj read

@[simp]
theorem decimalText_inj {m n : Nat} : decimalText m = decimalText n ↔ m = n :=
  ⟨decimalText_injective, congrArg decimalText⟩

theorem isDecimal_of_mem_decimal {n : Nat} {c : Char} (cMem : c ∈ decimal n) :
    isDecimal c = true := by
  obtain ⟨d, small, rfl⟩ := exists_digit_of_mem_decimal cMem
  rw [isDecimal, decimalDigit?_digitChar small]
  rfl

/-- A text that ends in a number after a mark can be taken apart from its end, whatever stands
before the mark. -/
theorem append_decimal_inj {s t : List Char} {mark : Char} (foreign : isDecimal mark = false)
    {m n : Nat} : s ++ mark :: decimal m = t ++ mark :: decimal n ↔ s = t ∧ m = n := by
  -- Read from the end, the digits go on up to the mark.
  have digits (s : List Char) (n : Nat) :
      (s ++ mark :: decimal n).reverse.takeWhile isDecimal = (decimal n).reverse := by
    have decimals : ∀ c ∈ (decimal n).reverse, isDecimal c = true :=
      fun c cMem => isDecimal_of_mem_decimal (List.mem_reverse.mp cMem)
    rw [List.reverse_append, List.reverse_cons, List.append_assoc,
      List.takeWhile_append_of_pos decimals, List.singleton_append,
      List.takeWhile_cons_of_neg (Bool.not_eq_true _ ▸ foreign), List.append_nil]
  constructor
  · intro same
    have numerals : decimal m = decimal n := by
      rw [← List.reverse_inj, ← digits s m, ← digits t n, same]
    obtain rfl : m = n := decimalText_injective (congrArg String.ofList numerals)
    exact ⟨List.append_cancel_right same, rfl⟩
  · rintro ⟨rfl, rfl⟩
    rfl

/-- The same of a text with a longer mark, which ends in no digit. -/
theorem append_decimalText_inj {s t : String} (mark : String)
    (ends : mark.toList.getLast?.map isDecimal = some false) {m n : Nat} :
    s ++ mark ++ decimalText m = t ++ mark ++ decimalText n ↔ s = t ∧ m = n := by
  obtain ⟨last, isLast, foreign⟩ := Option.map_eq_some_iff.mp ends
  obtain ⟨front, frontAndLast⟩ := List.getLast?_eq_some_iff.mp isLast
  have split (s : String) (n : Nat) :
      (s ++ mark ++ decimalText n).toList = (s.toList ++ front) ++ last :: decimal n := by
    simp [decimalText, frontAndLast]
  rw [← String.toList_inj, split, split, append_decimal_inj foreign, List.append_left_inj,
    String.toList_inj]

end Text

end ControlPlane
