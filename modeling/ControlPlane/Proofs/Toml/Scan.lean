import ControlPlane.Proofs.Text.Basic
import ControlPlane.Toml.Token

/-!
# The tokens of an entry

Texts between quotes come back character by character, whatever characters they
hold; bare keys and the words for truth values are scanned to themselves.  The
end of the line is the only thing that follows a value here, so no value has to
be told apart from what comes after it on its line.
-/

namespace ControlPlane.Toml

/-! ## Before the scanner -/

/-- Only carriage returns are ever taken out of a text. -/
theorem unifyLines_of_not_mem {s : List Char} (noReturn : '\r' ∉ s) : unifyLines s = s := by
  fun_induction unifyLines s with
  | case1 rest => exact absurd List.mem_cons_self noReturn
  | case2 c rest _ ih => rw [ih (List.not_mem_of_not_mem_cons noReturn)]
  | case3 => rfl

/-! ## Escapes -/

/-- A quote or a backslash has a short escape, a barred character is escaped by its
number, and every other character stands for itself. -/
theorem escapeChar_cases (c : Char) :
    ((c = '"' ∨ c = '\\') ∧ escapeChar c = ['\\', c]) ∨
      (isBarred c = true ∧ escapeChar c =
        ['\\', 'u', '0', '0', Nat.digitChar (c.toNat / 16), Nat.digitChar (c.toNat % 16)]) ∨
      (isBarred c = false ∧ c ≠ '"' ∧ c ≠ '\\' ∧ escapeChar c = [c]) := by
  unfold escapeChar
  split
  · next isQuote => exact .inl ⟨.inl isQuote, by rw [isQuote]⟩
  split
  · next isBackslash => exact .inl ⟨.inr isBackslash, by rw [isBackslash]⟩
  split
  · next barred => exact .inr (.inl ⟨barred, rfl⟩)
  · next notQuote notBackslash plain =>
      exact .inr (.inr ⟨Bool.eq_false_iff.mpr plain, notQuote, notBackslash, rfl⟩)

theorem toNat_lt_of_isBarred {c : Char} (barred : isBarred c = true) : c.toNat < 0x80 := by
  simp only [isBarred, Bool.or_eq_true, Bool.and_eq_true, decide_eq_true_eq] at barred
  omega

/-- No escape brings in a carriage return. -/
theorem return_not_mem_escapeChar (c : Char) : '\r' ∉ escapeChar c := by
  have digits : ∀ d < 16, Nat.digitChar d ≠ '\r' := by decide
  rcases escapeChar_cases c with ⟨rfl | rfl, escaped⟩ | ⟨barred, escaped⟩ | ⟨plain, _, _, escaped⟩
  · simp [escaped]
  · simp [escaped]
  · have small := toNat_lt_of_isBarred barred
    have high := (digits (c.toNat / 16) (by omega)).symm
    have low := (digits (c.toNat % 16) (by omega)).symm
    simp [escaped, high, low]
  · rw [escaped, List.mem_singleton]
    rintro rfl
    exact absurd plain (by decide)

theorem return_not_mem_spellText (s : String) : '\r' ∉ spellText s := by
  simp [spellText, return_not_mem_escapeChar]

namespace Mode

/-- The scanner takes a character and goes on in the mode that it is in then. -/
theorem run_cons (mode : Mode) (c : Char) (rest : List Char) :
    mode.run (c :: rest) = (mode.step c).1 ++ (mode.step c).2.run rest :=
  rfl

theorem step_between (bracket : Option Char) (c : Char) :
    (between bracket).step c = start bracket c :=
  rfl

theorem step_word (letters : List Char) (c : Char) :
    (word letters).step c =
      if isWordChar c then ([], word (c :: letters))
      else if c = ' ' ∧ isDateShaped letters.reverse then ([], dated letters)
      else endBefore (wordToken letters) c :=
  rfl

theorem step_quoted (q : Quote) (c : Char) :
    (quoted q).step c = if c = q.mark then ([], quotedTwice q) else inText q [] c :=
  rfl

theorem step_text (q : Quote) (content : List Char) (c : Char) :
    (text q content).step c = inText q content c :=
  rfl

/-- A hexadecimal digit that is not the last one of its escape. -/
theorem run_unit_of_due {c : Char} {d : Nat} (digit : Text.hexDigit? c = some d)
    (multiline : Bool) (content : List Char) (value left : Nat) (rest : List Char) :
    (unit multiline content value (left + 1)).run (c :: rest) =
      (unit multiline content (value * 16 + d) left).run rest := by
  simp only [run, step, digit, List.nil_append]

/-- The last hexadecimal digit of the escape of a character. -/
theorem run_unit_of_last {c meant : Char} {d value : Nat}
    (digit : Text.hexDigit? c = some d) (complete : value * 16 + d = meant.toNat)
    (multiline : Bool) (content : List Char) (rest : List Char) :
    (unit multiline content value 0).run (c :: rest) =
      (within multiline (meant :: content)).run rest := by
  have valid : meant.toNat.isValidChar := meant.valid
  simp only [run, step, digit, complete, if_pos valid, Char.ofNat_toNat, List.nil_append]

/-- A character is scanned from its number. -/
theorem run_unicode_escape {c : Char} (small : c.toNat < 0x80) (content : List Char)
    (rest : List Char) :
    (text .basic content).run
        (['\\', 'u', '0', '0', Nat.digitChar (c.toNat / 16), Nat.digitChar (c.toNat % 16)] ++
          rest) =
      (text .basic (c :: content)).run rest := by
  obtain ⟨high, low, value⟩ := Text.hexDigit?_digitChar_div_mod (Nat.lt_trans small (by decide))
  calc
    _ = (unit false content 0 1).run
          (Nat.digitChar (c.toNat / 16) :: Nat.digitChar (c.toNat % 16) :: rest) := rfl
    _ = (within false (c :: content)).run rest := by
        rw [run_unit_of_due high, run_unit_of_last low value]
    _ = _ := rfl

/-- The escape of a character is scanned to the character. -/
theorem run_escapeChar (c : Char) (content rest : List Char) :
    (text .basic content).run (escapeChar c ++ rest) =
      (text .basic (c :: content)).run rest := by
  rcases escapeChar_cases c with ⟨rfl | rfl, escaped⟩ | ⟨barred, escaped⟩ |
    ⟨plain, notQuote, notBackslash, escaped⟩
  · rw [escaped]
    rfl
  · rw [escaped]
    rfl
  · rw [escaped, run_unicode_escape (toNat_lt_of_isBarred barred)]
  · rw [escaped, List.singleton_append, run_cons, step_text, inText, Quote.mark, if_neg notQuote,
      if_neg fun escape => notBackslash escape.1, plain]
    rfl

/-- The escapes of a text are scanned to the text. -/
theorem run_flatMap_escapeChar (s content rest : List Char) :
    (text .basic content).run (s.flatMap escapeChar ++ rest) =
      (text .basic (s.reverse ++ content)).run rest := by
  induction s generalizing content with
  | nil => rfl
  | cons c s ih =>
      rw [List.flatMap_cons, List.append_assoc, run_escapeChar, ih, List.reverse_cons,
        List.append_assoc, List.singleton_append]

/-! ## Values -/

/-- One quote does not yet say whether the text is one of several lines: that takes
a second one directly after it, which no escape begins with. -/
theorem run_quoted_escapeChar (c : Char) (rest : List Char) :
    (quoted .basic).run (escapeChar c ++ rest) = (text .basic []).run (escapeChar c ++ rest) := by
  rcases escapeChar_cases c with ⟨_, escaped⟩ | ⟨_, escaped⟩ | ⟨_, notQuote, _, escaped⟩
  · rw [escaped]
    rfl
  · rw [escaped]
    rfl
  · rw [escaped, List.singleton_append, run_cons, step_quoted, Quote.mark, if_neg notQuote]
    rfl

/-- A spelled text at the end of a line is scanned to one token that holds it. -/
theorem run_spellText (s : String) (rest : List Char) :
    (between none).run (spellText s ++ '\n' :: rest) =
      .text s false :: .newline :: (between none).run rest := by
  rw [spellText, List.append_assoc]
  cases chars : s.toList with
  | nil =>
      rw [← String.ofList_toList (s := s), chars]
      rfl
  | cons c others =>
      calc
        _ = (quoted .basic).run
              (escapeChar c ++ (others.flatMap escapeChar ++ '"' :: '\n' :: rest)) := by
            rw [List.flatMap_cons, List.cons_append, List.append_assoc]
            rfl
        _ = (text .basic []).run ((c :: others).flatMap escapeChar ++ '"' :: '\n' :: rest) := by
            rw [run_quoted_escapeChar, List.flatMap_cons, List.append_assoc]
        _ = textToken (c :: others).reverse false :: .newline :: (between none).run rest := by
            rw [run_flatMap_escapeChar, List.append_nil]
            rfl
        _ = _ := by rw [textToken, List.reverse_reverse, ← chars, String.ofList_toList]

/-! ## Keys -/

/-- A character of a bare key begins a word. -/
theorem start_of_isBareKeyChar {c : Char} (bare : isBareKeyChar c = true)
    (bracket : Option Char) : start bracket c = ([], word [c]) := by
  have differs {d : Char} (foreign : isBareKeyChar d = false) : c ≠ d := by
    rintro rfl
    exact Bool.false_ne_true (foreign.symm.trans bare)
  have isWord : isWordChar c = true := by simp [isWordChar, bare]
  have notBlank : ¬(c = ' ' ∨ c = '\t') := not_or.mpr ⟨differs rfl, differs rfl⟩
  rw [start, if_neg notBlank, if_neg (differs rfl), if_neg (differs rfl), if_neg (differs rfl),
    if_neg (differs rfl), if_neg (differs rfl), if_neg (differs rfl), if_neg (differs rfl),
    if_neg (differs rfl), if_neg (differs rfl), if_neg (differs rfl), if_pos isWord]

/-- A word goes on as long as characters of bare keys follow. -/
theorem run_word_of_bare {letters : List Char} (bare : ∀ c ∈ letters, isBareKeyChar c = true)
    (earlier rest : List Char) :
    (word earlier).run (letters ++ rest) = (word (letters.reverse ++ earlier)).run rest := by
  induction letters generalizing earlier with
  | nil => rfl
  | cons c letters ih =>
      have isWord : isWordChar c = true := by simp [isWordChar, bare c List.mem_cons_self]
      rw [List.cons_append, run_cons, step_word, if_pos isWord,
        ih fun other otherMem => bare other (List.mem_cons_of_mem c otherMem)]
      simp

/-- A word ends before an equals sign.  Even one that looks like a date does, since no
time of day follows the space. -/
theorem run_word_of_equals (letters rest : List Char) :
    (word letters).run (" = ".toList ++ rest) =
      wordToken letters :: .equals :: (between none).run rest := by
  change (word letters).run (' ' :: '=' :: ' ' :: rest) = _
  rw [run_cons, step_word, if_neg (by decide)]
  by_cases shaped : isDateShaped letters.reverse = true
  · rw [if_pos ⟨rfl, shaped⟩]
    rfl
  · rw [if_neg fun divided => shaped divided.2]
    rfl

/-- A bare key is scanned to a word. -/
theorem run_bareKey {key : List Char} (nonempty : key ≠ [])
    (bare : ∀ c ∈ key, isBareKeyChar c = true) (rest : List Char) :
    (between none).run (key ++ (" = ".toList ++ rest)) =
      .word key :: .equals :: (between none).run rest := by
  obtain ⟨c, letters, rfl⟩ := List.exists_cons_of_ne_nil nonempty
  have first := start_of_isBareKeyChar (bare c List.mem_cons_self) none
  have others : ∀ other ∈ letters, isBareKeyChar other = true :=
    fun other otherMem => bare other (List.mem_cons_of_mem c otherMem)
  rw [List.cons_append, run_cons, step_between, first, List.nil_append, run_word_of_bare others,
    run_word_of_equals, wordToken, List.reverse_append, List.reverse_reverse]
  rfl

end Mode

end ControlPlane.Toml
