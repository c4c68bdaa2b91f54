import ControlPlane.Proofs.Settings.Variable

/-!
# Ordinary texts

Truth values and numbers are written with few characters.  One character of another
kind, such as the colon of an address with a port, is enough for a text to be taken
for nothing but a text.
-/

namespace ControlPlane

open ControlPlane.Number (Binary64 Numeral isExponentMark)

/-! ## The characters of numerals -/

namespace Text

/-- Taking off the sign takes off nothing else. -/
theorem mem_signed {s : List Char} {c : Char} (cMem : c ∈ s) :
    c = '-' ∨ c = '+' ∨ c ∈ (signed s).2 := by
  unfold signed
  split
  · rcases List.mem_cons.mp cMem with isMinus | later
    · exact .inl isMinus
    · exact .inr (.inr later)
  · rcases List.mem_cons.mp cMem with isPlus | later
    · exact .inr (.inl isPlus)
    · exact .inr (.inr later)
  · exact .inr (.inr cMem)

theorem isDecimal_of_mem {s : List Char} {digits : List Nat} {c : Char}
    (read : s.mapM decimalDigit? = some digits) (cMem : c ∈ s) : isDecimal c = true := by
  obtain ⟨small, rfl⟩ := eq_map_digitChar_of_mapM_decimalDigit? read
  obtain ⟨d, dMem, rfl⟩ := List.mem_map.mp cMem
  rw [isDecimal, decimalDigit?_digitChar (small d dMem)]
  rfl

end Text

namespace Number

/-- A character that a number may be written with. -/
def isNumeralChar (c : Char) : Bool :=
  Text.isDecimal c || isExponentMark c || c = '.' || c = '-' || c = '+'

/-- A character of a text stands before the place where a condition first fails, or
there, or after it. -/
theorem mem_takeWhile_or_dropWhile (p : Char → Bool) {s : List Char} {c : Char} (cMem : c ∈ s) :
    c ∈ s.takeWhile p ∨
      ∃ mark rest, s.dropWhile p = mark :: rest ∧ p mark = false ∧ (c = mark ∨ c ∈ rest) := by
  rw [← List.takeWhile_append_dropWhile (p := p) (l := s)] at cMem
  rcases List.mem_append.mp cMem with before | after
  · exact .inl before
  · obtain ⟨mark, rest, found⟩ := List.exists_cons_of_ne_nil (List.ne_nil_of_mem after)
    have stops := List.head_dropWhile_not p (List.ne_nil_of_mem after)
    simp only [found, List.head_cons] at stops
    rw [found] at after
    exact .inr ⟨mark, rest, found, stops, List.mem_cons.mp after⟩

theorem Numeral.isNumeralChar_of_mem {s : List Char} {n : Numeral}
    (read : Numeral.ofText? (·.mapM Text.decimalDigit?) s = some n) {c : Char} (cMem : c ∈ s) :
    isNumeralChar c = true := by
  have ofDigit {run : List Char} {digits : List Nat}
      (read : run.mapM Text.decimalDigit? = some digits) (inRun : c ∈ run) :
      isNumeralChar c = true := by
    simp [isNumeralChar, Text.isDecimal_of_mem read inRun]
  simp only [Numeral.ofText?] at read
  obtain ⟨whole, wholeRead, read⟩ := Option.bind_eq_some_iff.mp read
  rcases Text.mem_signed cMem with rfl | rfl | unsigned
  · rfl
  · rfl
  rcases mem_takeWhile_or_dropWhile (fun c => !isExponentMark c) unsigned with
    inMantissa | ⟨mark, rest, found, isMark, here⟩
  · rcases mem_takeWhile_or_dropWhile (· ≠ '.') inMantissa with
      inWhole | ⟨point, rest, found, isPoint, here⟩
    · exact ofDigit wholeRead inWhole
    · rw [found] at read
      obtain ⟨fraction, fractionRead, _⟩ := Option.bind_eq_some_iff.mp read
      obtain ⟨digits, digitsRead, _⟩ := Option.map_eq_some_iff.mp fractionRead
      rcases here with rfl | inRest
      · simp only [decide_not, Bool.not_eq_false', decide_eq_true_eq] at isPoint
        rw [isPoint]
        rfl
      · exact ofDigit digitsRead inRest
  · rw [found] at read
    have exponentRead : ∃ digits, (Text.signed rest).2.mapM Text.decimalDigit? = some digits := by
      -- The fraction, whether there is one or not, has no say in the exponent.
      split at read
      all_goals
        obtain ⟨_, _, read⟩ := Option.bind_eq_some_iff.mp read
        obtain ⟨_, exponentRead, _⟩ := Option.bind_eq_some_iff.mp read
        obtain ⟨digits, digitsRead, _⟩ := Option.map_eq_some_iff.mp exponentRead
        exact ⟨digits, digitsRead⟩
    obtain ⟨digits, digitsRead⟩ := exponentRead
    rcases here with rfl | inRest
    · simp only [Bool.not_eq_false'] at isMark
      simp [isNumeralChar, isMark]
    · rcases Text.mem_signed inRest with rfl | rfl | unsigned
      · rfl
      · rfl
      · exact ofDigit digitsRead unsigned

end Number

/-! ## Texts with a character of another kind -/

namespace Raw

/-- The letters of the words for truth values and of the names of doubles. -/
def tellingLetters : List Char :=
  "truefalseinfinitynan".toList

/-- A character that a truth value or a number may be written with. -/
def isTelling (c : Char) : Bool :=
  Number.isNumeralChar c || tellingLetters.contains c.toLower

section Foreign

variable {s : String} {c : Char} (cMem : c ∈ s.toList) (foreign : isTelling c = false)

include foreign in
/-- A text with a foreign character is no word, in letters of whatever case. -/
theorem map_toLower_ne {run : List Char} (inRun : c ∈ run) (word : List Char)
    (spelled : word.all (tellingLetters.contains ·) = true) : run.map Char.toLower ≠ word := by
  rintro rfl
  have isLetter := List.all_eq_true.mp spelled _ (List.mem_map_of_mem inRun)
  obtain ⟨_, notLetter⟩ := Bool.or_eq_false_iff.mp foreign
  exact Bool.false_ne_true (notLetter.symm.trans isLetter)

include cMem foreign

theorem isTruthWord_of_foreign : isTruthWord s = false := by
  apply isTruthWord_eq_false_iff.mpr
  constructor
  · intro same
    exact map_toLower_ne foreign cMem "true".toList (by decide) (String.ofList_injective same)
  · intro same
    exact map_toLower_ne foreign cMem "false".toList (by decide) (String.ofList_injective same)

theorem ofText?_of_foreign : Binary64.ofText? s.toList = none := by
  obtain ⟨notNumeral, _⟩ := Bool.or_eq_false_iff.mp foreign
  have unsigned : c ∈ (Text.signed s.toList).2 := by
    rcases Text.mem_signed cMem with rfl | rfl | unsigned
    · exact absurd notNumeral (by decide)
    · exact absurd notNumeral (by decide)
    · exact unsigned
  have noName : Binary64.ofName? (Text.signed s.toList).1 (Text.signed s.toList).2 = none := by
    have notInf := map_toLower_ne foreign unsigned "inf".toList (by decide)
    have notInfinity := map_toLower_ne foreign unsigned "infinity".toList (by decide)
    have notNan := map_toLower_ne foreign unsigned "nan".toList (by decide)
    rw [Binary64.ofName?, if_neg (not_or.mpr ⟨notInf, notInfinity⟩), if_neg notNan]
  have noNumeral : Numeral.ofText? (·.mapM Text.decimalDigit?) s.toList = none := by
    cases read : Numeral.ofText? (·.mapM Text.decimalDigit?) s.toList with
    | none => rfl
    | some n =>
        have isNumeral := Number.Numeral.isNumeralChar_of_mem read cMem
        exact absurd (notNumeral.symm.trans isNumeral) Bool.false_ne_true
  rw [Binary64.ofText?, noName, noNumeral]

/-- One foreign character makes a text ordinary. -/
theorem KeptText.of_foreign : KeptText s :=
  .plain (isTruthWord_of_foreign cMem foreign) (ofText?_of_foreign cMem foreign)

end Foreign

end Raw

end ControlPlane
