import ControlPlane.Number.Decimal
import ControlPlane.Proofs.Text.Basic
import Mathlib.Algebra.Ring.Nat
import Mathlib.Data.List.TakeWhile

/-!
# Whole numbers as doubles

A number written in decimal is read to the double that is nearest to it.  From
`2 ^ 52` on the doubles are whole numbers, `2 ^ k` apart between `2 ^ (52 + k)` and
`2 ^ (53 + k)`, so that a number survives just if `2 ^ k` divides it.
-/

namespace ControlPlane

/-! ## Numerals without a sign, a point or an exponent -/

namespace Text

theorem signed_decimal (n : Nat) : signed (decimal n) = (false, decimal n) := by
  unfold signed
  split
  · next rest isMinus =>
      have minusMem : '-' ∈ decimal n := by rw [isMinus]; exact List.mem_cons_self
      exact absurd minusMem (not_mem_decimal rfl n)
  · next rest isPlus =>
      have plusMem : '+' ∈ decimal n := by rw [isPlus]; exact List.mem_cons_self
      exact absurd plusMem (not_mem_decimal rfl n)
  · rfl

theorem integerValue?_decimal (n : Nat) : integerValue? (decimal n) = some (n : Int) := by
  rw [integerValue?, signed_decimal, decimalValue?_decimal]
  rfl

/-- Digits have no capital letters among them. -/
theorem map_toLower_decimal (n : Nat) : (decimal n).map Char.toLower = decimal n := by
  have unchanged : ∀ d < 10, (Nat.digitChar d).toLower = Nat.digitChar d := by decide
  rw [List.map_congr_left (g := id), List.map_id]
  intro c cMem
  obtain ⟨d, small, rfl⟩ := exists_digit_of_mem_decimal cMem
  exact unchanged d small

end Text

namespace Number

/-- A run of digits after a sign is a numeral without a point or an exponent. -/
theorem Numeral.ofText?_of_signed {s : List Char} {negative : Bool} {digits : List Nat}
    (split : Text.signed s = (negative, digits.map Nat.digitChar))
    (small : ∀ d ∈ digits, d < 10) :
    Numeral.ofText? (·.mapM Text.decimalDigit?) s = some ⟨negative, digits, none, none⟩ := by
  have plain : ∀ d < 10, isExponentMark (Nat.digitChar d) = false ∧ Nat.digitChar d ≠ '.' := by
    decide
  have noMark : ∀ c ∈ digits.map Nat.digitChar, (!isExponentMark c) = true := by
    intro c cMem
    obtain ⟨d, dMem, rfl⟩ := List.mem_map.mp cMem
    rw [(plain d (small d dMem)).1]
    rfl
  have noPoint : ∀ c ∈ digits.map Nat.digitChar, decide (c ≠ '.') = true := by
    intro c cMem
    obtain ⟨d, dMem, rfl⟩ := List.mem_map.mp cMem
    exact decide_eq_true (plain d (small d dMem)).2
  simp only [Numeral.ofText?, split, List.takeWhile_eq_self_iff.mpr noMark,
    List.dropWhile_eq_nil_iff.mpr noMark, List.takeWhile_eq_self_iff.mpr noPoint,
    List.dropWhile_eq_nil_iff.mpr noPoint, Text.mapM_decimalDigit?_digitChar small]
  rfl

namespace Binary64

/-- The name of an infinity or of not-a-number is no run of digits. -/
theorem ofName?_map_digitChar (negative : Bool) {digits : List Nat}
    (small : ∀ d ∈ digits, d < 10) : ofName? negative (digits.map Nat.digitChar) = none := by
  have noLetter : ∀ d < 10, (Nat.digitChar d).toLower ≠ 'n' := by decide
  have notMem : 'n' ∉ (digits.map Nat.digitChar).map Char.toLower := by
    intro isMem
    obtain ⟨c, cMem, isN⟩ := List.mem_map.mp isMem
    obtain ⟨d, dMem, rfl⟩ := List.mem_map.mp cMem
    exact noLetter d (small d dMem) isN
  have differs {name : List Char} (spelled : 'n' ∈ name) :
      (digits.map Nat.digitChar).map Char.toLower ≠ name :=
    fun same => notMem (same ▸ spelled)
  rw [ofName?, if_neg (not_or.mpr ⟨differs (by decide), differs (by decide)⟩),
    if_neg (differs (by decide))]

/-- A run of digits after a sign is read to the double nearest to it. -/
theorem ofText?_of_signed {s : List Char} {negative : Bool} {digits : List Nat}
    (split : Text.signed s = (negative, digits.map Nat.digitChar))
    (small : ∀ d ∈ digits, d < 10) (nonempty : digits ≠ []) :
    ofText? s = some (ofNumeral ⟨negative, digits, none, none⟩) := by
  have digitsDue : (Numeral.mk negative digits none none).digits.isEmpty = false := by
    simpa [Numeral.digits] using nonempty
  rw [ofText?, split, ofName?_map_digitChar negative small,
    Numeral.ofText?_of_signed split small]
  simp only [digitsDue]
  rfl

/-- An integer is also a float. -/
theorem exists_ofText?_of_integerValue? {s : List Char} {i : Int}
    (integer : Text.integerValue? s = some i) : ∃ x, ofText? s = some x := by
  obtain ⟨n, natural, _⟩ := Option.map_eq_some_iff.mp integer
  unfold Text.decimalValue? Text.digitsValue? at natural
  split at natural
  · cases natural
  · next nonempty =>
      obtain ⟨digits, read, _⟩ := Option.map_eq_some_iff.mp natural
      obtain ⟨small, spelled⟩ := Text.eq_map_digitChar_of_mapM_decimalDigit? read
      have split : Text.signed s = ((Text.signed s).1, digits.map Nat.digitChar) :=
        Prod.ext rfl spelled
      have digitsNonempty : digits ≠ [] := by
        rintro rfl
        exact nonempty spelled
      exact ⟨_, ofText?_of_signed split small digitsNonempty⟩

/-- A numeral of a whole number that is not too long is read to the double nearest to
the number. -/
theorem ofNumeral_ofNat {n : Nat} (short : (Text.decimal n).length ≤ 330) :
    ofNumeral (.ofNat n) = .ofNat n := by
  have value : Text.ofDigits 10 (Numeral.ofNat n).digits = n := by
    change Text.ofDigits 10 ((Numeral.ofNat n).whole ++ []) = n
    rw [List.append_nil, Numeral.ofDigits_whole_ofNat]
  rw [Text.decimal] at short
  rw [ofNumeral, value, ofDecimal]
  change (if n = 0 ∨ (0 : Int) + (Nat.toDigits 10 n).length < -330 then zero false
    else if 330 < (0 : Int) + (Nat.toDigits 10 n).length then .infinite false
    else ofRatio false (n * 1) (1 * 1)) = ofNat n
  by_cases isZero : n = 0
  · rw [if_pos (.inl isZero), isZero]
    rfl
  · rw [if_neg (by omega), if_neg (by omega), Nat.mul_one]
    rfl

/-- A number written in decimal is read to the double nearest to it. -/
theorem ofText?_decimal {n : Nat} (short : (Text.decimal n).length ≤ 330) :
    ofText? (Text.decimal n) = some (.ofNat n) := by
  have split : Text.signed (Text.decimal n) =
      (false, (Numeral.ofNat n).whole.map Nat.digitChar) := by
    rw [Text.signed_decimal, Numeral.map_digitChar_whole_ofNat]
  have nonempty : (Numeral.ofNat n).whole ≠ [] := by
    rcases Numeral.whole_ofNat_eq_zero_or_cons n with isZero | ⟨d, rest, _, isCons⟩
    · rw [isZero]
      exact List.cons_ne_nil 0 []
    · rw [isCons]
      exact List.cons_ne_nil d rest
  rw [ofText?_of_signed split (Numeral.lt_ten_of_mem_whole_ofNat n) nonempty,
    ← ofNumeral_ofNat short]
  rfl

/-! ## Rounding -/

theorem floorLog2_one {n : Nat} (positive : n ≠ 0) : floorLog2 n 1 = n.log2 := by
  have below : 2 ^ n.log2 ≤ n := Nat.log2_self_le positive
  have guess : (n.log2 : Int) - (Nat.log2 1 : Nat) = n.log2 := Int.sub_zero _
  have fits : scaledNum 2 1 n.log2 ≤ scaledDen 2 n n.log2 := by
    simpa [scaledNum, scaledDen] using below
  rw [floorLog2, guess, if_pos fits]

/-- The double nearest to a whole number is the nearest multiple of `2 ^ k`. -/
theorem ofNat_of_log2 {n k : Nat} (log : n.log2 = 52 + k) (bounded : k < 971) :
    ∃ mantissa exponent : Nat, ofNat n = .finite false mantissa exponent ∧
      mantissa * 2 ^ exponent = roundQuotient n (2 ^ k) * 2 ^ k := by
  have positive : n ≠ 0 := by
    rintro rfl
    rw [Nat.log2_zero] at log
    omega
  have exponent : max (floorLog2 n 1 - 52) minExponent = (k : Int) := by
    rw [floorLog2_one positive, log, minExponent]
    omega
  have quotient : roundQuotient (scaledDen 2 n k) (scaledNum 2 1 k) = roundQuotient n (2 ^ k) := by
    simp [scaledDen, scaledNum]
  rw [ofNat, ofRatio, if_neg positive]
  simp only [exponent, quotient, maxExponent]
  by_cases carried : roundQuotient n (2 ^ k) = 2 * leastNormal
  · refine ⟨leastNormal, k + 1, ?_, ?_⟩
    · rw [if_pos carried, if_pos carried, if_neg (by omega)]
      rfl
    · rw [carried, Nat.pow_succ, ← Nat.mul_assoc, Nat.mul_right_comm, Nat.mul_comm 2]
  · refine ⟨roundQuotient n (2 ^ k), k, ?_, rfl⟩
    rw [if_neg carried, if_neg carried, if_neg (by omega)]

end Binary64

end Number

end ControlPlane
