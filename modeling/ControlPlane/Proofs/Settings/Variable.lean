import ControlPlane.Proofs.Number.Whole
import ControlPlane.Settings.Layer

/-!
# Texts of variables

A variable holds a text, but its setting is given the value that the text is taken
for.  A setting that wants a text gets this value written out again, which is the
text of the variable only if that was the value's own spelling.  A setting that
wants a natural number gets it back unless the number needs more than 63 bits: then
it comes as the double nearest to it.
-/

namespace ControlPlane

open ControlPlane.Number (Binary64)

/-! ## Integers as texts -/

namespace Text

theorem toList_integerText (i : Int) :
    (integerText i).toList = (if i < 0 then ['-'] else []) ++ decimal i.natAbs := by
  unfold integerText
  split <;> simp [decimalText]

theorem integerText_natCast (n : Nat) : integerText n = decimalText n := by
  simp [integerText]

theorem integerValue?_integerText (i : Int) : integerValue? (integerText i).toList = some i := by
  rw [toList_integerText]
  by_cases negative : i < 0
  · rw [if_pos negative]
    change (decimalValue? (decimal i.natAbs)).map (fun n : Nat => -(n : Int)) = some i
    rw [decimalValue?_decimal, Option.map_some]
    congr 1
    omega
  · rw [if_neg negative, List.nil_append, integerValue?_decimal]
    congr 1
    omega

end Text

namespace Raw

/-! ## Words for truth values -/

/-- The text of an integer is in small letters. -/
theorem inSmallLetters_integerText (i : Int) :
    inSmallLetters (Text.integerText i) = Text.integerText i := by
  have unchanged : (Text.integerText i).toList.map Char.toLower = (Text.integerText i).toList := by
    rw [Text.toList_integerText, List.map_append, Text.map_toLower_decimal]
    split <;> rfl
  rw [inSmallLetters, unchanged, String.ofList_toList]

/-- No word with a letter in it is the text of an integer. -/
theorem inSmallLetters_integerText_ne {word : String}
    (lettered : word.toList.any (fun c => c ≠ '-' && !Text.isDecimal c) = true) (i : Int) :
    inSmallLetters (Text.integerText i) ≠ word := by
  rw [inSmallLetters_integerText]
  rintro rfl
  obtain ⟨c, cMem, isLetter⟩ := List.any_eq_true.mp lettered
  simp only [Bool.and_eq_true, decide_eq_true_eq, Bool.not_eq_true'] at isLetter
  obtain ⟨notMinus, foreign⟩ := isLetter
  rw [Text.toList_integerText] at cMem
  rcases List.mem_append.mp cMem with inSign | inDigits
  · split at inSign
    · exact notMinus (List.mem_singleton.mp inSign)
    · exact List.not_mem_nil inSign
  · exact Text.not_mem_decimal foreign _ inDigits

/-- Is a text one of the two words that a variable's truth value has, in letters of any
case? -/
def isTruthWord (s : String) : Bool :=
  inSmallLetters s = "true" || inSmallLetters s = "false"

theorem isTruthWord_eq_false_iff {s : String} :
    isTruthWord s = false ↔ inSmallLetters s ≠ "true" ∧ inSmallLetters s ≠ "false" := by
  rw [isTruthWord, Bool.or_eq_false_iff, decide_eq_false_iff_not, decide_eq_false_iff_not]

theorem isTruthWord_integerText (i : Int) : isTruthWord (Text.integerText i) = false :=
  isTruthWord_eq_false_iff.mpr
    ⟨inSmallLetters_integerText_ne (by decide) i, inSmallLetters_integerText_ne (by decide) i⟩

/-! ## What a text is taken for -/

/-- What a text is taken for: the first of these that it looks like. -/
inductive Taken (s : String) : Raw → Prop
  | truth {b : Bool} (word : inSmallLetters s = if b then "true" else "false") :
      Taken s (.bool b)
  | integer {i : Int} (noTruth : isTruthWord s = false)
      (integer : (Text.integerValue? s.toList).filter Text.isInteger64 = some i) :
      Taken s (.integer i)
  | float {x : Binary64} (noTruth : isTruthWord s = false)
      (noInteger : (Text.integerValue? s.toList).filter Text.isInteger64 = none)
      (number : Binary64.ofText? s.toList = some x) : Taken s (.float x)
  | text (noTruth : isTruthWord s = false) (noNumber : Binary64.ofText? s.toList = none) :
      Taken s (.text s)

theorem taken_ofVariable (s : String) : Taken s (ofVariable s) := by
  by_cases isTrue : inSmallLetters s = "true"
  · rw [ofVariable, if_pos isTrue]
    exact .truth isTrue
  by_cases isFalse : inSmallLetters s = "false"
  · rw [ofVariable, if_neg isTrue, if_pos isFalse]
    exact .truth isFalse
  have noTruth := isTruthWord_eq_false_iff.mpr ⟨isTrue, isFalse⟩
  rw [ofVariable, if_neg isTrue, if_neg isFalse]
  cases integer : (Text.integerValue? s.toList).filter Text.isInteger64 with
  | some i => exact .integer noTruth integer
  | none =>
      cases number : Binary64.ofText? s.toList with
      | some x => exact .float noTruth integer number
      | none => exact .text noTruth number

theorem Taken.ofVariable_eq {s : String} {raw : Raw} (taken : Taken s raw) :
    ofVariable s = raw := by
  cases taken with
  | @truth b word => cases b <;> simp [ofVariable, word]
  | integer noTruth integer =>
      obtain ⟨notTrue, notFalse⟩ := isTruthWord_eq_false_iff.mp noTruth
      rw [ofVariable, if_neg notTrue, if_neg notFalse, integer]
  | float noTruth noInteger number =>
      obtain ⟨notTrue, notFalse⟩ := isTruthWord_eq_false_iff.mp noTruth
      rw [ofVariable, if_neg notTrue, if_neg notFalse, noInteger, number]
  | text noTruth noNumber =>
      have noInteger : Text.integerValue? s.toList = none := by
        cases integer : Text.integerValue? s.toList with
        | none => rfl
        | some i =>
            obtain ⟨x, number⟩ := Binary64.exists_ofText?_of_integerValue? integer
            rw [noNumber] at number
            cases number
      obtain ⟨notTrue, notFalse⟩ := isTruthWord_eq_false_iff.mp noTruth
      rw [ofVariable, if_neg notTrue, if_neg notFalse, noInteger, Option.filter_none, noNumber]

theorem taken_truth (b : Bool) : Taken (if b then "true" else "false") (.bool b) := by
  apply Taken.truth
  cases b <;> decide

theorem taken_integerText {i : Int} (small : Text.isInteger64 i = true) :
    Taken (Text.integerText i) (.integer i) := by
  apply Taken.integer (isTruthWord_integerText i)
  rw [Text.integerValue?_integerText, Option.filter_some, if_pos small]

/-! ## Texts that arrive -/

/-- The texts that a setting is given just as they stand in its variable. -/
inductive KeptText : String → Prop
  /-- A truth value in small letters. -/
  | truth (b : Bool) : KeptText (if b then "true" else "false")
  /-- An integer of 64 bits, without a plus sign or a zero in front. -/
  | integer {i : Int} (small : Text.isInteger64 i = true) : KeptText (Text.integerText i)
  /-- Another number, in its shortest spelling without an exponent. -/
  | float {s : String} {x : Binary64} (noTruth : isTruthWord s = false)
      (noInteger : (Text.integerValue? s.toList).filter Text.isInteger64 = none)
      (number : Binary64.ofText? s.toList = some x)
      (shortest : floatLayout.write x = s.toList) : KeptText s
  /-- Neither a truth value nor a number. -/
  | plain {s : String} (noTruth : isTruthWord s = false)
      (noNumber : Binary64.ofText? s.toList = none) : KeptText s

/-- Every variable sets a text. -/
theorem exists_text?_ofVariable (s : String) : ∃ arrived, (ofVariable s).text? = some arrived := by
  have taken := taken_ofVariable s
  generalize ofVariable s = raw at taken ⊢
  cases taken with
  | @truth b _ => cases b <;> exact ⟨_, rfl⟩
  | integer | float | text => exact ⟨_, rfl⟩

/-- A text comes out of its variable just if it is what its value is written as. -/
theorem text?_ofVariable_eq_some_iff (s : String) :
    (ofVariable s).text? = some s ↔ KeptText s := by
  constructor
  · intro arrives
    have taken := taken_ofVariable s
    generalize ofVariable s = raw at arrives taken
    cases taken with
    | @truth b _ =>
        cases b with
        | false =>
            cases arrives
            exact .truth false
        | true =>
            cases arrives
            exact .truth true
    | integer _ integer =>
        cases arrives
        exact .integer (Option.filter_eq_some_iff.mp integer).2
    | float noTruth noInteger number =>
        have shortest := congrArg String.toList (Option.some.inj arrives)
        rw [String.toList_ofList] at shortest
        exact .float noTruth noInteger number shortest
    | text noTruth noNumber => exact .plain noTruth noNumber
  · intro kept
    cases kept with
    | truth b => cases b <;> decide
    | integer small =>
        rw [(taken_integerText small).ofVariable_eq]
        rfl
    | float noTruth noInteger number shortest =>
        rw [(Taken.float noTruth noInteger number).ofVariable_eq, text?, shortest,
          String.ofList_toList]
    | plain noTruth noNumber =>
        rw [(Taken.text noTruth noNumber).ofVariable_eq]
        rfl

/-- A zero at the end of a fraction is lost. -/
example : (ofVariable "1.5").text? = some "1.5" ∧ (ofVariable "1.50").text? = some "1.5" := by
  decide

/-! ## Natural numbers that arrive -/

/-- The natural numbers that a setting is given just as they stand in its variable. -/
def KeptNumber (t : UInt64) : Prop :=
  t.toNat < 2 ^ 63 ∨ 2048 ∣ t.toNat ∨ t.toNat = greatest

/-- A double that is a whole number is taken for it, as far as 64 bits go. -/
theorem nearest_whole (mantissa exponent : Nat) :
    nearest (.finite false mantissa exponent) = min greatest (mantissa * 2 ^ exponent) := by
  have num : Number.scaledNum 2 mantissa exponent = mantissa * 2 ^ exponent := by
    simp [Number.scaledNum]
  have den : Number.scaledDen 2 1 exponent = 1 := by simp [Number.scaledDen]
  rw [nearest, num, den]
  simp only [Bool.false_eq_true, if_false]
  congr 1
  omega

/-- Between `2 ^ 63` and `2 ^ 64` the doubles are 2048 apart, and the last one that is
taken for a number is cut to the greatest number. -/
theorem min_roundQuotient_eq_iff {n : Nat} (small : n ≤ greatest) :
    min greatest (Number.roundQuotient n 2048 * 2048) = n ↔ 2048 ∣ n ∨ n = greatest := by
  have bound : greatest = 18446744073709551615 := rfl
  simp only [Number.roundQuotient]
  split
  · omega
  split <;> omega

theorem natural?_ofVariable_of_lt {t : UInt64} (small : t.toNat < 2 ^ 63) :
    (ofVariable (Text.decimalText t.toNat)).natural? = some t := by
  have isInteger : Text.isInteger64 t.toNat = true := by
    simp only [Text.isInteger64, Bool.and_eq_true, decide_eq_true_eq]
    omega
  have fits : t.toNat ≤ greatest := Nat.le_of_lt_succ t.toNat_lt
  have notNegative : ¬(t.toNat : Int) < 0 := by omega
  rw [← Text.integerText_natCast, (taken_integerText isInteger).ofVariable_eq, natural?,
    if_neg notNegative, Int.toNat_natCast, natural64?, if_pos fits, UInt64.ofNat_toNat]

theorem natural?_ofVariable_of_le {t : UInt64} (large : 2 ^ 63 ≤ t.toNat) :
    (ofVariable (Text.decimalText t.toNat)).natural? =
      some (.ofNat (min greatest (Number.roundQuotient t.toNat 2048 * 2048))) := by
  have below : t.toNat < 2 ^ 64 := t.toNat_lt
  have notInteger : ¬Text.isInteger64 t.toNat = true := by
    simp only [Text.isInteger64, Bool.and_eq_true, decide_eq_true_eq]
    omega
  have short : (Text.decimal t.toNat).length ≤ 20 :=
    (Nat.length_toDigits_le_iff (by decide) (by decide)).mpr (by omega)
  have log : t.toNat.log2 = 52 + 11 := (Nat.log2_eq_iff (by omega)).mpr ⟨large, below⟩
  obtain ⟨mantissa, exponent, double, rounded⟩ := Binary64.ofNat_of_log2 log (by decide)
  have value : mantissa * 2 ^ exponent = Number.roundQuotient t.toNat 2048 * 2048 := rounded
  have number : Binary64.ofText? (Text.integerText t.toNat).toList =
      some (.finite false mantissa exponent) := by
    rw [Text.integerText_natCast, Text.decimalText, String.toList_ofList, ← double]
    exact Binary64.ofText?_decimal (Nat.le_trans short (by decide))
  have taken : Taken (Text.integerText t.toNat) (.float (.finite false mantissa exponent)) := by
    apply Taken.float (isTruthWord_integerText t.toNat) _ number
    rw [Text.integerValue?_integerText, Option.filter_some, if_neg notInteger]
  rw [← Text.integerText_natCast, taken.ofVariable_eq, natural?, nearest_whole, value, natural64?,
    if_pos (Nat.min_le_left _ _)]

/-- A number comes out of its variable just if 63 bits hold it, or if it is a double, or
if it is the greatest one. -/
theorem natural?_ofVariable_decimalText (t : UInt64) :
    ∃ arrived, (ofVariable (Text.decimalText t.toNat)).natural? = some arrived ∧
      (arrived = t ↔ KeptNumber t) := by
  by_cases small : t.toNat < 2 ^ 63
  · exact ⟨t, natural?_ofVariable_of_lt small, iff_of_true rfl (.inl small)⟩
  · have fits : t.toNat ≤ greatest := Nat.le_of_lt_succ t.toNat_lt
    refine ⟨_, natural?_ofVariable_of_le (Nat.not_lt.mp small), ?_⟩
    rw [← UInt64.toNat_inj, UInt64.toNat_ofNat_of_lt', min_roundQuotient_eq_iff fits, KeptNumber,
      or_iff_right small]
    exact Nat.lt_succ_of_le (Nat.min_le_left greatest _)

/-- The number after `2 ^ 63` arrives as `2 ^ 63`. -/
example : (ofVariable "9223372036854775809").natural? = some 9223372036854775808 := by
  decide

end Raw

end ControlPlane
