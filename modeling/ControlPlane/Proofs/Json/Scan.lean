import ControlPlane.Json.Value
import ControlPlane.Proofs.Text.Basic
import Mathlib.Data.List.Forall2

/-!
# The tokens of a spelled value

The text of a value is scanned to the tokens that it was spelled from.  Texts come
back character by character, whatever characters they hold: an escape is scanned
to a piece that denotes the escaped character.  A numeral ends where a comma or a
closing bracket follows, which is all that follows it in the text of a value.
-/

namespace ControlPlane.Json

open ControlPlane.Number (Numeral)

/-! ## Texts -/

/-- What a piece without a surrogate stands for.  Code units are written for
control characters only. -/
inductive Piece.Denotes : Piece → Char → Prop
  | char (c : Char) : Denotes (.char c) c
  | unit {c : Char} (control : c.toNat < 0x20) : Denotes (.unit c.toNat) c

/-- A code unit that is no surrogate stands for itself, whatever follows it. -/
theorem joinPieces_unit_cons {value : Nat} (notHigh : isHighSurrogate value = false)
    (notLow : isLowSurrogate value = false) (rest : List Piece) :
    joinPieces (.unit value :: rest) = (joinPieces rest).map (Char.ofNat value :: ·) := by
  cases rest with
  | nil => simp [joinPieces, notHigh, notLow]
  | cons next rest => cases next <;> simp [joinPieces, notHigh, notLow]

theorem joinPieces_of_denotes {pieces : List Piece} {s : List Char}
    (denotes : List.Forall₂ Piece.Denotes pieces s) : joinPieces pieces = some s := by
  induction denotes with
  | nil => rfl
  | @cons piece c _ _ first _ ih =>
      cases first with
      | char => rw [joinPieces, ih, Option.map_some]
      | unit control =>
          have notHigh : isHighSurrogate c.toNat = false := by
            simp only [isHighSurrogate, Bool.and_eq_false_iff, decide_eq_false_iff_not]
            omega
          have notLow : isLowSurrogate c.toNat = false := by
            simp only [isLowSurrogate, Bool.and_eq_false_iff, decide_eq_false_iff_not]
            omega
          rw [joinPieces_unit_cons notHigh notLow, ih, Option.map_some, Char.ofNat_toNat]

/-- A character has a short escape, or is a control character that is escaped by
its number, or stands for itself. -/
theorem escapeChar_cases (c : Char) :
    (∃ letter, simpleEscape? letter = some c ∧ escapeChar c = ['\\', letter]) ∨
      (c.toNat < 0x20 ∧ escapeChar c =
        ['\\', 'u', '0', '0', Nat.digitChar (c.toNat / 16), Nat.digitChar (c.toNat % 16)]) ∨
      (0x20 ≤ c.toNat ∧ c ≠ '"' ∧ c ≠ '\\' ∧ escapeChar c = [c]) := by
  unfold escapeChar
  split
  · next isQuote => exact .inl ⟨'"', by rw [isQuote]; rfl, rfl⟩
  split
  · next isBackslash => exact .inl ⟨'\\', by rw [isBackslash]; rfl, rfl⟩
  split
  · next isBackspace => exact .inl ⟨'b', by rw [isBackspace]; rfl, rfl⟩
  split
  · next isFeed => exact .inl ⟨'f', by rw [isFeed]; rfl, rfl⟩
  split
  · next isNewline => exact .inl ⟨'n', by rw [isNewline]; rfl, rfl⟩
  split
  · next isReturn => exact .inl ⟨'r', by rw [isReturn]; rfl, rfl⟩
  split
  · next isTab => exact .inl ⟨'t', by rw [isTab]; rfl, rfl⟩
  split
  · next control => exact .inr (.inl ⟨control, rfl⟩)
  · next notQuote notBackslash _ _ _ _ _ plain =>
      exact .inr (.inr ⟨Nat.not_lt.mp plain, notQuote, notBackslash, rfl⟩)

namespace Mode

/-- A hexadecimal digit that is not the last one of its code unit. -/
theorem run_unit_of_due {c : Char} {d : Nat} (digit : Text.hexDigit? c = some d)
    (pieces : List Piece) (value left : Nat) (rest : List Char) :
    (unit pieces value (left + 1)).run (c :: rest) =
      (unit pieces (value * 16 + d) left).run rest := by
  simp only [run, step, digit, List.nil_append]

/-- The last hexadecimal digit of a code unit. -/
theorem run_unit_of_last {c : Char} {d : Nat} (digit : Text.hexDigit? c = some d)
    (pieces : List Piece) (value : Nat) (rest : List Char) :
    (unit pieces value 0).run (c :: rest) =
      (text (.unit (value * 16 + d) :: pieces)).run rest := by
  simp only [run, step, digit, List.nil_append]

/-- A control character is scanned from its number. -/
theorem run_unicode_escape {n : Nat} (control : n < 0x20) (pieces : List Piece)
    (rest : List Char) :
    (text pieces).run
        (['\\', 'u', '0', '0', Nat.digitChar (n / 16), Nat.digitChar (n % 16)] ++ rest) =
      (text (.unit n :: pieces)).run rest := by
  have small : n < 0x100 := Nat.lt_trans control (by decide)
  obtain ⟨high, low, value⟩ := Text.hexDigit?_digitChar_div_mod small
  calc
    _ = (unit pieces 0 1).run (Nat.digitChar (n / 16) :: Nat.digitChar (n % 16) :: rest) := rfl
    _ = (text (.unit (Text.ofDigits 16 [n / 16, n % 16]) :: pieces)).run rest := by
        rw [run_unit_of_due high, run_unit_of_last low]
        rfl
    _ = _ := by rw [value]

/-- The escape of a character is scanned to a piece that denotes it. -/
theorem run_escapeChar (c : Char) (pieces : List Piece) (rest : List Char) :
    ∃ piece, Piece.Denotes piece c ∧
      (text pieces).run (escapeChar c ++ rest) = (text (piece :: pieces)).run rest := by
  rcases escapeChar_cases c with ⟨letter, short, escaped⟩ | ⟨control, escaped⟩ |
    ⟨printable, notQuote, notBackslash, escaped⟩
  · refine ⟨.char c, .char c, ?_⟩
    rw [escaped]
    calc
      _ = (escape pieces).run (letter :: rest) := rfl
      _ = _ := by rw [run, step, short]; rfl
  · refine ⟨.unit c.toNat, .unit control, ?_⟩
    rw [escaped, run_unicode_escape control]
  · refine ⟨.char c, .char c, ?_⟩
    rw [escaped, List.singleton_append, run, step, if_neg notQuote, if_neg notBackslash,
      if_neg (Nat.not_lt.mpr printable)]
    rfl

/-- The escapes of a text are scanned to pieces that denote it. -/
theorem run_flatMap_escapeChar (s : List Char) (pieces : List Piece) (rest : List Char) :
    ∃ scanned, List.Forall₂ Piece.Denotes scanned s ∧
      (text pieces).run (s.flatMap escapeChar ++ rest) =
        (text (scanned.reverse ++ pieces)).run rest := by
  induction s generalizing pieces with
  | nil => exact ⟨[], .nil, rfl⟩
  | cons c s ih =>
      obtain ⟨piece, first, firstRun⟩ := run_escapeChar c pieces (s.flatMap escapeChar ++ rest)
      obtain ⟨scanned, others, othersRun⟩ := ih (piece :: pieces)
      refine ⟨piece :: scanned, .cons first others, ?_⟩
      rw [List.flatMap_cons, List.append_assoc, firstRun, othersRun, List.reverse_cons,
        List.append_assoc, List.singleton_append]

/-- A spelled text is scanned to one token that holds the text. -/
theorem run_spellText (s : String) (rest : List Char) :
    between.run (spellText s ++ rest) = .text (some s) :: between.run rest := by
  obtain ⟨scanned, denotes, scannedRun⟩ :=
    run_flatMap_escapeChar s.toList [] ('"' :: rest)
  calc
    _ = (text []).run (s.toList.flatMap escapeChar ++ ('"' :: rest)) := by
        rw [spellText, List.append_assoc]
        rfl
    _ = (text (scanned.reverse ++ [])).run ('"' :: rest) := scannedRun
    _ = .text ((joinPieces scanned).map String.ofList) :: between.run rest := by
        rw [run, step, if_pos rfl, List.append_nil, List.reverse_reverse]
        rfl
    _ = _ := by rw [joinPieces_of_denotes denotes, Option.map_some, String.ofList_toList]

/-! ## Numerals -/

/-- The texts that a numeral ends before: the empty one, and those that begin as
what follows a value inside another one. -/
def Delimited (rest : List Char) : Prop :=
  ∀ c ∈ rest.head?, c = ',' ∨ c = ']' ∨ c = '}'

theorem delimited_nil : Delimited [] := by
  simp [Delimited]

/-- A whole number ends where a delimiter follows. -/
theorem run_numeral_of_delimited {rest : List Char} (delimited : Delimited rest)
    (n : Numeral) {stage : Stage} (digits : stage = .zero ∨ stage = .whole) :
    (numeral n stage).run rest = .number n :: between.run rest := by
  cases rest with
  | nil => rcases digits with rfl | rfl <;> rfl
  | cons c rest =>
      rcases digits with rfl | rfl <;> rcases delimited c rfl with rfl | rfl | rfl <;> rfl

/-- Digits continue a number that does not begin with a zero. -/
theorem run_digits {digits : List Nat} (small : ∀ d ∈ digits, d < 10) (n : Numeral)
    (rest : List Char) :
    (numeral n .whole).run (digits.map Nat.digitChar ++ rest) =
      (numeral { n with whole := n.whole ++ digits } .whole).run rest := by
  induction digits generalizing n with
  | nil => rw [List.append_nil]; rfl
  | cons d digits ih =>
      have digit := Text.decimalDigit?_digitChar (small d List.mem_cons_self)
      have others := ih fun other otherMem => small other (List.mem_cons_of_mem d otherMem)
      have taken : extend? n .whole (Nat.digitChar d) = some (addWhole n d, .whole) := by
        simp only [extend?, digit]
      calc
        _ = (numeral (addWhole n d) .whole).run (digits.map Nat.digitChar ++ rest) := by
            rw [List.map_cons, List.cons_append, run, step, taken]
            rfl
        _ = _ := by rw [others, addWhole, List.append_assoc, List.singleton_append]

/-- A digit that is no zero begins a number that more digits may continue. -/
theorem start_digitChar {d : Nat} (nonzero : d ≠ 0) (small : d < 10) :
    start (Nat.digitChar d) = ([], numeral (addWhole (emptyNumeral false) d) .whole) := by
  have all : ∀ d < 10, d ≠ 0 →
      start (Nat.digitChar d) = ([], numeral (addWhole (emptyNumeral false) d) .whole) := by
    decide
  exact all d small nonzero

/-- A spelled natural number is scanned to its numeral. -/
theorem run_spell_natural (n : Nat) {rest : List Char} (delimited : Delimited rest) :
    between.run ((Numeral.ofNat n).spell ++ rest) =
      .number (.ofNat n) :: between.run rest := by
  have spelled : (Numeral.ofNat n).spell = (Numeral.ofNat n).whole.map Nat.digitChar := by
    simp [Numeral.spell, Numeral.spellPoint, Numeral.spellExponent, Numeral.ofNat]
  have small := Numeral.lt_ten_of_mem_whole_ofNat n
  have shape : Numeral.ofNat n = { emptyNumeral false with whole := (Numeral.ofNat n).whole } :=
    rfl
  rcases Numeral.whole_ofNat_eq_zero_or_cons n with isZero | ⟨d, digits, nonzero, isCons⟩
  · rw [spelled, shape, isZero]
    exact run_numeral_of_delimited delimited _ (.inl rfl)
  · rw [isCons] at small
    rw [spelled, shape, isCons, List.map_cons, List.cons_append, run, step,
      start_digitChar nonzero (small d List.mem_cons_self), List.nil_append,
      run_digits fun other otherMem => small other (List.mem_cons_of_mem d otherMem)]
    exact run_numeral_of_delimited delimited _ (.inr rfl)

end Mode

/-! ## Values -/

namespace Value

/-- Values of which every number is a natural one. -/
inductive Plain : Value → Prop
  | null : Plain .null
  | bool (b : Bool) : Plain (.bool b)
  | natural (n : Nat) : Plain (.natural n)
  | text (s : String) : Plain (.text s)
  | array {items : List Value} (all : ∀ item ∈ items, Plain item) : Plain (.array items)
  | object {members : List (String × Value)} (all : ∀ m ∈ members, Plain m.2) :
      Plain (.object members)

/-- The text of a value and what follows it are scanned to the tokens of the value
and those of what follows. -/
def ScansBack (v : Value) : Prop :=
  ∀ rest, Mode.Delimited rest →
    Mode.between.run (v.tokens.flatMap Token.spell ++ rest) =
      v.tokens ++ Mode.between.run rest

/-- What follows an item is a comma or the closing bracket. -/
theorem delimited_itemTokens (items : List Value) (rest : List Char) :
    Mode.Delimited ((itemTokens items).flatMap Token.spell ++ rest) := by
  cases items <;> simp [itemTokens, Token.spell, Mode.Delimited]

/-- What follows a member is a comma or the closing brace. -/
theorem delimited_memberTokens (members : List (String × Value)) (rest : List Char) :
    Mode.Delimited ((memberTokens members).flatMap Token.spell ++ rest) := by
  cases members <;> simp [memberTokens, Token.spell, Mode.Delimited]

/-- An item and what follows it in its array. -/
theorem run_item {item : Value} {items : List Value} {rest : List Char} (first : item.ScansBack)
    (others : Mode.between.run ((itemTokens items).flatMap Token.spell ++ rest) =
      itemTokens items ++ Mode.between.run rest) :
    Mode.between.run ((item.tokens ++ itemTokens items).flatMap Token.spell ++ rest) =
      item.tokens ++ itemTokens items ++ Mode.between.run rest := by
  rw [List.flatMap_append, List.append_assoc, first _ (delimited_itemTokens items rest), others,
    List.append_assoc]

theorem run_itemTokens {items : List Value} (all : ∀ item ∈ items, item.ScansBack)
    (rest : List Char) :
    Mode.between.run ((itemTokens items).flatMap Token.spell ++ rest) =
      itemTokens items ++ Mode.between.run rest := by
  induction items with
  | nil => rfl
  | cons item items ih =>
      have others := ih fun other otherMem => all other (List.mem_cons_of_mem item otherMem)
      exact congrArg (.comma :: ·) (run_item (all item List.mem_cons_self) others)

/-- A member and what follows it in its object. -/
theorem run_member {value : Value} {members : List (String × Value)} {rest : List Char}
    (key : String) (first : value.ScansBack)
    (others : Mode.between.run ((memberTokens members).flatMap Token.spell ++ rest) =
      memberTokens members ++ Mode.between.run rest) :
    Mode.between.run ((.text (some key) :: .colon ::
        (value.tokens ++ memberTokens members)).flatMap Token.spell ++ rest) =
      .text (some key) :: .colon ::
        (value.tokens ++ memberTokens members ++ Mode.between.run rest) := by
  have valueRun := first _ (delimited_memberTokens members rest)
  rw [others, ← List.append_assoc, ← List.append_assoc, ← List.flatMap_append] at valueRun
  rw [List.flatMap_cons, List.append_assoc, Token.spell, Mode.run_spellText]
  exact congrArg (.text (some key) :: .colon :: ·) valueRun

theorem run_memberTokens {members : List (String × Value)}
    (all : ∀ m ∈ members, m.2.ScansBack) (rest : List Char) :
    Mode.between.run ((memberTokens members).flatMap Token.spell ++ rest) =
      memberTokens members ++ Mode.between.run rest := by
  induction members with
  | nil => rfl
  | cons member members ih =>
      obtain ⟨key, value⟩ := member
      have others := ih fun other otherMem => all other (List.mem_cons_of_mem _ otherMem)
      exact congrArg (.comma :: ·) (run_member key (all (key, value) List.mem_cons_self) others)

/-- Plain values are scanned back: one case for each kind of value. -/
theorem Plain.scansBack {v : Value} (plain : v.Plain) : v.ScansBack := by
  induction plain with
  | null => exact fun rest _ => rfl
  | bool b => cases b <;> exact fun rest _ => rfl
  | natural n =>
      intro rest delimited
      simp only [Value.natural, tokens, List.flatMap_singleton, Token.spell]
      exact Mode.run_spell_natural n delimited
  | text s =>
      intro rest _
      simp only [tokens, List.flatMap_singleton, Token.spell]
      exact Mode.run_spellText s rest
  | @array items _ ih =>
      intro rest _
      cases items with
      | nil => rfl
      | cons item items =>
          have others := run_itemTokens
            (fun other otherMem => ih other (List.mem_cons_of_mem item otherMem)) rest
          exact congrArg (.openBracket :: ·) (run_item (ih item List.mem_cons_self) others)
  | @object members _ ih =>
      intro rest _
      cases members with
      | nil => rfl
      | cons member members =>
          obtain ⟨key, value⟩ := member
          have others := run_memberTokens
            (fun other otherMem => ih other (List.mem_cons_of_mem _ otherMem)) rest
          exact congrArg (.openBrace :: ·)
            (run_member key (ih (key, value) List.mem_cons_self) others)

/-- The text of a plain value is scanned to the tokens of the value. -/
theorem Plain.scan_render {v : Value} (plain : v.Plain) :
    Token.scan v.render.toList = v.tokens := by
  have back := plain.scansBack [] Mode.delimited_nil
  rw [List.append_nil] at back
  rw [Token.scan, render, String.toList_ofList, back]
  exact List.append_nil _

end Value

end ControlPlane.Json
