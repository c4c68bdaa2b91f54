import ControlPlane.Proofs.Text.Shortest
import ControlPlane.Text.Quoted
import Mathlib.Algebra.Group.Nat.Even
import Mathlib.Data.List.DropRight

/-!
# Quoted text can be read back

Each character of a quoted text is written in one of three forms, and whatever follows, it
can be told which character it was and where its form ends.  So different texts are quoted
differently.  Between the outer quotes every quote is escaped, and the last one is not, so
it is where the quoted text ends.  No control character is left in it.
-/

namespace ControlPlane.Text

/-! ## Hexadecimal numerals -/

theorem hexValue?_hex (n : Nat) : hexValue? (hex n) = some n :=
  hexValue?_eq_some_iff.mpr (isShortest_toDigits (by decide) (by decide) n).denotes

theorem exists_hexDigit?_of_mem_hex {n : Nat} {c : Char} (cMem : c ∈ hex n) :
    ∃ d, hexDigit? c = some d := by
  have denotes : Denotes 16 (hex n) n := hexValue?_eq_some_iff.mp (hexValue?_hex n)
  obtain ⟨d, isDigit⟩ := denotes.exists_isDigit cMem
  exact ⟨d, hexDigit?_eq_some_iff.mpr isDigit⟩

/-- No other character stands in a number written in hexadecimal. -/
theorem not_mem_hex {c : Char} (foreign : hexDigit? c = none) (n : Nat) : c ∉ hex n := by
  intro cMem
  obtain ⟨d, read⟩ := exists_hexDigit?_of_mem_hex cMem
  rw [foreign] at read
  cases read

/-! ## The forms of characters -/

/-- What stands after a backslash for one character, and for which. -/
def shortEscapes : List (Char × Char) :=
  [('0', '\x00'), ('t', '\t'), ('n', '\n'), ('r', '\r'), ('\\', '\\'), ('"', '"')]

theorem mem_codePointEscape {c d : Char} (dMem : d ∈ codePointEscape c) :
    d ∈ ['\\', 'u', '{', '}'] ∨ d ∈ hex c.toNat := by
  rcases List.mem_append.mp dMem with front | last
  · rcases List.mem_append.mp front with opening | digit
    · exact .inl (List.mem_append_left ['}'] opening)
    · exact .inr digit
  · exact .inl (List.mem_append_right ['\\', 'u', '{'] last)

/-- The forms in which a character is written between quotes. -/
inductive FormOf : Char → List Char → Prop
  | short {mark c : Char} (listed : (mark, c) ∈ shortEscapes) : FormOf c ['\\', mark]
  | codePoint {c : Char} : FormOf c (codePointEscape c)
  | itself {c : Char} (notQuote : c ≠ '"') (notBackslash : c ≠ '\\')
      (visible : inRanges unprintableRanges c = false) : FormOf c [c]

theorem formOf_escape (c : Char) : FormOf c (escape c) := by
  unfold escape
  split
  · next isNull => exact isNull ▸ .short (by decide)
  split
  · next isTab => exact isTab ▸ .short (by decide)
  split
  · next isFeed => exact isFeed ▸ .short (by decide)
  split
  · next isReturn => exact isReturn ▸ .short (by decide)
  split
  · next isOwn => rcases isOwn with rfl | rfl <;> exact .short (by decide)
  split
  · exact .codePoint
  · next notOwn ranges =>
      rw [not_or] at notOwn ranges
      exact .itself notOwn.2 notOwn.1 (Bool.eq_false_iff.mpr ranges.2)

/-! ## Reading forms -/

/-- The character whose form a text begins with, and what follows the form. -/
def unescape? : List Char → Option (Char × List Char)
  | '\\' :: 'u' :: '{' :: rest =>
      (hexValue? (rest.takeWhile (· != '}'))).map fun n =>
        (.ofNat n, (rest.dropWhile (· != '}')).tail)
  | '\\' :: mark :: rest => (shortEscapes.lookup mark).map fun c => (c, rest)
  | c :: rest => some (c, rest)
  | [] => none

theorem unescape?_codePointEscape (c : Char) (rest : List Char) :
    unescape? (codePointEscape c ++ rest) = some (c, rest) := by
  have unclosed : ∀ d ∈ hex c.toNat, (d != '}') = true := by
    intro d dMem
    rw [bne_iff_ne]
    rintro rfl
    exact not_mem_hex (by decide) _ dMem
  have split : codePointEscape c ++ rest =
      '\\' :: 'u' :: '{' :: (hex c.toNat ++ '}' :: rest) := by
    simp [codePointEscape]
  rw [split, unescape?, List.takeWhile_append_of_pos unclosed, List.dropWhile_append_of_pos unclosed]
  simp [hexValue?_hex]

/-- A form is read as its character, whatever follows. -/
theorem FormOf.unescape?_append {c : Char} {form : List Char} (formOf : FormOf c form)
    (rest : List Char) : unescape? (form ++ rest) = some (c, rest) := by
  cases formOf with
  | short listed =>
      simp only [shortEscapes, List.mem_cons, Prod.mk.injEq, List.not_mem_nil, or_false] at listed
      rcases listed with ⟨rfl, rfl⟩ | ⟨rfl, rfl⟩ | ⟨rfl, rfl⟩ | ⟨rfl, rfl⟩ | ⟨rfl, rfl⟩ | ⟨rfl, rfl⟩
      all_goals rfl
  | codePoint => exact unescape?_codePointEscape c rest
  | itself _ notBackslash _ =>
      rw [List.singleton_append]
      unfold unescape?
      split
      · next same => exact absurd (List.cons.inj same).1 notBackslash
      · next same => exact absurd (List.cons.inj same).1 notBackslash
      · next same =>
          obtain ⟨rfl, rfl⟩ := List.cons.inj same
          rfl
      · next same => cases same

/-- The forms of the characters of a text, one after another, are those of no other text. -/
theorem flatMap_escape_injective {s t : List Char} (same : s.flatMap escape = t.flatMap escape) :
    s = t := by
  induction s generalizing t with
  | nil =>
      cases t with
      | nil => rfl
      | cons d t =>
          have read := (formOf_escape d).unescape?_append (t.flatMap escape)
          rw [← List.flatMap_cons, ← same] at read
          cases read
  | cons c s ih =>
      have read := (formOf_escape c).unescape?_append (s.flatMap escape)
      rw [← List.flatMap_cons, same] at read
      cases t with
      | nil => cases read
      | cons d t =>
          rw [List.flatMap_cons, (formOf_escape d).unescape?_append, Option.some.injEq,
            Prod.mk.injEq] at read
          rw [read.1, ih read.2.symm]

theorem toList_quote (s : String) :
    (quote s).toList = '"' :: s.toList.flatMap escape ++ ['"'] :=
  String.toList_ofList

/-- Different texts are quoted differently. -/
theorem quote_inj {s t : String} : quote s = quote t ↔ s = t := by
  refine ⟨fun same => ?_, congrArg quote⟩
  rw [← String.toList_inj, toList_quote, toList_quote] at same
  have forms := (List.cons.inj same).2
  exact String.toList_injective (flatMap_escape_injective (List.append_cancel_right forms))

/-! ## Control characters -/

/-- A character of the general category control. -/
def IsControl (c : Char) : Prop :=
  c.toNat < 0x20 ∨ 0x7F ≤ c.toNat ∧ c.toNat < 0xA0

instance : DecidablePred IsControl :=
  fun _ => inferInstanceAs (Decidable (_ ∨ _))

/-- Control characters have no visible shape. -/
theorem IsControl.inRanges_unprintableRanges {c : Char} (control : IsControl c) :
    inRanges unprintableRanges c = true := by
  rw [inRanges, List.any_eq_true]
  rcases control with low | high
  · refine ⟨(0x0, 0x1F), List.mem_cons_self, ?_⟩
    simp only [Bool.and_eq_true, decide_eq_true_eq]
    omega
  · refine ⟨(0x7F, 0xA0), List.mem_cons_of_mem _ List.mem_cons_self, ?_⟩
    simp only [Bool.and_eq_true, decide_eq_true_eq]
    omega

theorem not_isControl_of_mem_hex {n : Nat} {c : Char} (cMem : c ∈ hex n) : ¬IsControl c := by
  obtain ⟨d, read⟩ := exists_hexDigit?_of_mem_hex cMem
  have places := hexDigit?_cases read
  unfold IsControl
  omega

/-- No form has a control character in it. -/
theorem FormOf.not_isControl {c d : Char} {form : List Char} (formOf : FormOf c form)
    (dMem : d ∈ form) : ¬IsControl d := by
  cases formOf with
  | @short mark _ listed =>
      have marks : shortEscapes.all (fun entry => decide ¬IsControl entry.1) = true := by decide
      rcases List.mem_pair.mp dMem with rfl | rfl
      · decide
      · exact of_decide_eq_true (List.all_eq_true.mp marks _ listed)
  | codePoint =>
      rcases mem_codePointEscape dMem with frame | digit
      · have plain : ['\\', 'u', '{', '}'].all (fun d => decide ¬IsControl d) = true := by decide
        exact of_decide_eq_true (List.all_eq_true.mp plain _ frame)
      · exact not_isControl_of_mem_hex digit
  | itself _ _ visible =>
      rw [List.mem_singleton.mp dMem]
      intro control
      rw [control.inRanges_unprintableRanges] at visible
      cases visible

/-- No control character is left in a quoted text. -/
theorem not_isControl_of_mem_quote {s : String} {c : Char} (cMem : c ∈ (quote s).toList) :
    ¬IsControl c := by
  rw [toList_quote] at cMem
  rcases List.mem_append.mp cMem with front | last
  · rcases List.mem_cons.mp front with rfl | inside
    · decide
    · obtain ⟨d, -, cMem⟩ := List.mem_flatMap.mp inside
      exact (formOf_escape d).not_isControl cMem
  · rw [List.mem_singleton.mp last]
    decide

/-! ## Quotes between the quotes -/

/-- What stands after `before` is escaped: a run of backslashes ends there, which escape one
another in pairs, up to the last one. -/
def EscapesNext (before : List Char) : Prop :=
  Odd (before.rtakeWhile (· == '\\')).length

theorem escapesNext_append_backslash {before : List Char} :
    EscapesNext (before ++ ['\\']) ↔ ¬EscapesNext before := by
  rw [EscapesNext, EscapesNext, List.rtakeWhile_concat_pos _ _ _ rfl, List.length_append,
    List.length_singleton, Nat.odd_add_one]

theorem not_escapesNext_append_of_ne {before : List Char} {c : Char} (notBackslash : c ≠ '\\') :
    ¬EscapesNext (before ++ [c]) := by
  rw [EscapesNext, List.rtakeWhile_concat_neg _ _ _ (by simpa using notBackslash)]
  decide

/-- After a form nothing is escaped. -/
theorem FormOf.not_escapesNext {c : Char} {form before : List Char} (formOf : FormOf c form)
    (free : ¬EscapesNext before) : ¬EscapesNext (before ++ form) := by
  cases formOf with
  | @short mark _ _ =>
      have split : before ++ ['\\', mark] = before ++ ['\\'] ++ [mark] := by simp
      rw [split]
      by_cases isBackslash : mark = '\\'
      · rw [isBackslash, escapesNext_append_backslash, not_not, escapesNext_append_backslash]
        exact free
      · exact not_escapesNext_append_of_ne isBackslash
  | codePoint =>
      rw [codePointEscape, ← List.append_assoc]
      exact not_escapesNext_append_of_ne (by decide)
  | itself _ notBackslash _ => exact not_escapesNext_append_of_ne notBackslash

theorem not_escapesNext_flatMap_escape {before : List Char} (free : ¬EscapesNext before)
    (s : List Char) : ¬EscapesNext (before ++ s.flatMap escape) := by
  induction s generalizing before with
  | nil => rwa [List.flatMap_nil, List.append_nil]
  | cons c s ih =>
      rw [List.flatMap_cons, ← List.append_assoc]
      exact ih ((formOf_escape c).not_escapesNext free)

/-- A quote in a form is escaped. -/
theorem FormOf.escapesNext {c : Char} {form before front after : List Char}
    (formOf : FormOf c form) (free : ¬EscapesNext before) (split : form = front ++ '"' :: after) :
    EscapesNext (before ++ front) := by
  have quoteMem : '"' ∈ form := by simp [split]
  cases formOf with
  | short listed =>
      cases front with
      | nil => cases split
      | cons head front =>
          cases front with
          | nil =>
              obtain ⟨rfl, -⟩ := List.cons.inj split
              exact escapesNext_append_backslash.mpr free
          | cons other front => simp at split
  | codePoint =>
      rcases mem_codePointEscape quoteMem with frame | digit
      · exact absurd frame (by decide)
      · exact absurd digit (not_mem_hex (by decide) _)
  | itself notQuote _ _ => exact absurd (List.mem_singleton.mp quoteMem).symm notQuote

/-- Every quote between the outer quotes is escaped. -/
theorem escapesNext_of_flatMap_escape {s before front after : List Char}
    (free : ¬EscapesNext before) (split : s.flatMap escape = front ++ '"' :: after) :
    EscapesNext (before ++ front) := by
  induction s generalizing before front with
  | nil => simp at split
  | cons c s ih =>
      rw [List.flatMap_cons] at split
      rcases List.append_eq_append_iff.mp split with
        ⟨later, rfl, inRest⟩ | ⟨inside, isForm, rest⟩
      · rw [← List.append_assoc]
        exact ih ((formOf_escape c).not_escapesNext free) inRest
      · cases inside with
        | nil =>
            rw [List.append_nil] at isForm
            rw [← isForm, ← List.append_nil (before ++ escape c)]
            exact ih ((formOf_escape c).not_escapesNext free) rest.symm
        | cons head inside =>
            obtain ⟨rfl, -⟩ := List.cons.inj rest
            exact (formOf_escape c).escapesNext free isForm

end ControlPlane.Text
