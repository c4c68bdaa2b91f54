import ControlPlane.Http.Percent
import Mathlib.Data.List.Basic

/-!
# What percent-encoded texts stand for

A percent-encoded text stands for octets: those of its escapes, and those of the UTF-8 of
the characters between them.  It is decoded to a text exactly if these octets are the
UTF-8 of the text.  The first octet of a character tells how many others continue it, and
none that continues a character begins one; so the octets of a character are either all
written as escapes or not at all.
-/

namespace ControlPlane.Http.Percent

/-- The octets of the UTF-8 of a character, as numbers. -/
def utf8 (c : Char) : List Nat :=
  (String.utf8EncodeChar c).map UInt8.toNat

/-- The octets of a part of a text. -/
def Piece.octets : Piece → List Nat
  | char c => utf8 c
  | octet value => [value]

/-- The octets that a percent-encoded text stands for. -/
def octets (s : List Char) : List Nat :=
  (pieces s).flatMap Piece.octets

/-! ## Reading one character -/

section Character

variable {c : Char}

theorem toNat_lt (c : Char) : c.toNat < 0x110000 := by
  rcases c.valid with low | high
  · exact Nat.lt_trans low (by decide)
  · exact high.2

/-- The octets of a character, by ranges of code points. -/
theorem utf8_eq (c : Char) :
    utf8 c =
      if c.toNat < 0x80 then [c.toNat]
      else if c.toNat < 0x800 then [0xC0 + c.toNat / 64, 0x80 + c.toNat % 64]
      else if c.toNat < 0x10000 then
        [0xE0 + c.toNat / 4096, 0x80 + c.toNat / 64 % 64, 0x80 + c.toNat % 64]
      else
        [0xF0 + c.toNat / 262144, 0x80 + c.toNat / 4096 % 64, 0x80 + c.toNat / 64 % 64,
          0x80 + c.toNat % 64] := by
  have greatest := toNat_lt c
  have value : c.val.toNat = c.toNat := rfl
  simp only [utf8, String.utf8EncodeChar, value, Nat.lt_succ_iff]
  generalize c.toNat = n at greatest
  repeat' split
  all_goals
    simp only [List.map_cons, List.map_nil, UInt8.toNat_ofNat', List.cons.injEq, and_true]
    omega

theorem toNat_ofNat {n : Nat} (valid : n.isValidChar) : (Char.ofNat n).toNat = n := by
  rw [Char.ofNat, dif_pos valid]
  rfl

theorem utf8_ofNat {a : Nat} (small : a < 0x80) : utf8 (.ofNat a) = [a] := by
  rw [utf8_eq, toNat_ofNat (.inl (Nat.lt_trans small (by decide))), if_pos small]

theorem continuation?_eq_some_iff {octet payload : Nat} :
    continuation? octet = some payload ↔ payload < 0x40 ∧ octet = 0x80 + payload := by
  unfold continuation?
  split
  · rw [Option.some.injEq]
    omega
  · simp only [reduceCtorEq, false_iff]
    omega

theorem checked?_eq_some_iff {least codePoint : Nat} :
    checked? least codePoint = some c ↔ least ≤ codePoint ∧ c.toNat = codePoint := by
  unfold checked?
  split
  · next within =>
      rw [Option.some.injEq, ← Char.toNat_inj, toNat_ofNat within.2, and_iff_right within.1,
        eq_comm]
  · next outside =>
      simp only [reduceCtorEq, false_iff]
      rintro ⟨large, rfl⟩
      exact outside ⟨large, c.valid⟩

/-- Two octets are read as the character that has them. -/
theorem two?_eq_some_iff {a b : Nat} : two? a b = some c ↔ utf8 c = [a, b] := by
  rw [utf8_eq]
  simp only [two?, Option.bind_eq_bind, Option.bind_eq_some_iff, continuation?_eq_some_iff,
    Option.ite_none_right_eq_some, checked?_eq_some_iff]
  generalize c.toNat = n
  constructor
  · rintro ⟨payload, ⟨small, rfl⟩, first, large, rfl⟩
    rw [if_neg (by omega), if_pos (by omega)]
    simp only [List.cons.injEq, and_true]
    omega
  · intro same
    repeat' split at same
    all_goals simp only [List.cons.injEq, reduceCtorEq, and_true, and_false] at same
    exact ⟨n % 64, by omega⟩

/-- Three octets are read as the character that has them. -/
theorem three?_eq_some_iff {a b d : Nat} : three? a b d = some c ↔ utf8 c = [a, b, d] := by
  rw [utf8_eq]
  simp only [three?, Option.bind_eq_bind, Option.bind_eq_some_iff, continuation?_eq_some_iff,
    Option.ite_none_right_eq_some, checked?_eq_some_iff]
  generalize c.toNat = n
  constructor
  · rintro ⟨payload, ⟨small, rfl⟩, other, ⟨otherSmall, rfl⟩, first, large, rfl⟩
    rw [if_neg (by omega), if_neg (by omega), if_pos (by omega)]
    simp only [List.cons.injEq, and_true]
    omega
  · intro same
    repeat' split at same
    all_goals simp only [List.cons.injEq, reduceCtorEq, and_true, and_false] at same
    exact ⟨n / 64 % 64, by omega, n % 64, by omega⟩

/-- Four octets are read as the character that has them. -/
theorem four?_eq_some_iff {a b d e : Nat} : four? a b d e = some c ↔ utf8 c = [a, b, d, e] := by
  have greatest := toNat_lt c
  rw [utf8_eq]
  simp only [four?, Option.bind_eq_bind, Option.bind_eq_some_iff, continuation?_eq_some_iff,
    Option.ite_none_right_eq_some, checked?_eq_some_iff]
  generalize c.toNat = n at greatest
  constructor
  · rintro ⟨payload, ⟨small, rfl⟩, other, ⟨otherSmall, rfl⟩, last, ⟨lastSmall, rfl⟩, first,
      large, rfl⟩
    rw [if_neg (by omega), if_neg (by omega), if_neg (by omega)]
    simp only [List.cons.injEq, and_true]
    omega
  · intro same
    repeat' split at same
    all_goals simp only [List.cons.injEq, reduceCtorEq, and_true, and_false] at same
    exact ⟨n / 4096 % 64, by omega, n / 64 % 64, by omega, n % 64, by omega⟩

/-- Does an octet continue a character? -/
def Continues (octet : Nat) : Prop :=
  0x80 ≤ octet ∧ octet < 0xC0

theorem continues_payload (n : Nat) : Continues (0x80 + n % 64) :=
  ⟨by omega, by omega⟩

/-- How many octets continue the character that begins with an octet. -/
def following (first : Nat) : Nat :=
  if first < 0x80 then 0 else if first < 0xE0 then 1 else if first < 0xF0 then 2 else 3

/-- The octets of a character, by their number. -/
inductive Encoded (c : Char) : List Nat → Prop
  | one (small : c.toNat < 0x80) : Encoded c [c.toNat]
  | two {a b : Nat} (low : 0xC0 ≤ a) (high : a < 0xE0) (next : Continues b)
      (read : two? a b = some c) : Encoded c [a, b]
  | three {a b d : Nat} (low : 0xE0 ≤ a) (high : a < 0xF0) (next : Continues b)
      (last : Continues d) (read : three? a b d = some c) : Encoded c [a, b, d]
  | four {a b d e : Nat} (low : 0xF0 ≤ a) (next : Continues b) (third : Continues d)
      (last : Continues e) (read : four? a b d e = some c) : Encoded c [a, b, d, e]

theorem encoded_utf8 (c : Char) : Encoded c (utf8 c) := by
  have bytes := utf8_eq c
  have greatest := toNat_lt c
  split at bytes
  · next small =>
      rw [bytes]
      exact .one small
  split at bytes
  · rw [bytes]
    exact .two (by omega) (by omega) (continues_payload _) (two?_eq_some_iff.mpr bytes)
  split at bytes
  · rw [bytes]
    exact .three (by omega) (by omega) (continues_payload _) (continues_payload _)
      (three?_eq_some_iff.mpr bytes)
  · rw [bytes]
    exact .four (by omega) (continues_payload _) (continues_payload _) (continues_payload _)
      (four?_eq_some_iff.mpr bytes)

/-- Only the first octet of a character does not continue it, and it tells how many do. -/
theorem exists_utf8_eq (c : Char) :
    ∃ first others, utf8 c = first :: others ∧ ¬Continues first ∧
      (∀ octet ∈ others, Continues octet) ∧ others.length = following first := by
  have encoded := encoded_utf8 c
  generalize utf8 c = bytes at encoded
  have begins {first : Nat} (outside : first < 0x80 ∨ 0xC0 ≤ first) : ¬Continues first := by
    rintro ⟨low, high⟩
    omega
  cases encoded with
  | one small => exact ⟨_, _, rfl, begins (.inl small), by simp, by simp [following, small]⟩
  | @two a b low high next =>
      have notOne : ¬a < 0x80 := by omega
      exact ⟨_, _, rfl, begins (.inr low), by simp [next], by simp [following, notOne, high]⟩
  | @three a b d low high next last =>
      have notOne : ¬a < 0x80 := by omega
      have notTwo : ¬a < 0xE0 := by omega
      exact ⟨_, _, rfl, begins (.inr (by omega)), by simp [next, last],
        by simp [following, notOne, notTwo, high]⟩
  | @four a b d e low next third last =>
      have notOne : ¬a < 0x80 := by omega
      have notTwo : ¬a < 0xE0 := by omega
      have notThree : ¬a < 0xF0 := by omega
      exact ⟨_, _, rfl, begins (.inr (by omega)), by simp [next, third, last],
        by simp [following, notOne, notTwo, notThree]⟩

/-- The octets of a character are read as the character, whatever follows. -/
theorem assemble_utf8_append (c : Char) (rest : List Piece) :
    assemble ((utf8 c).map .octet ++ rest) = (assemble rest).map (c :: ·) := by
  have encoded := encoded_utf8 c
  generalize utf8 c = bytes at encoded
  cases encoded with
  | one small =>
      rw [List.map_singleton, List.singleton_append, assemble.eq_def]
      simp only [if_pos small, Char.ofNat_toNat]
  | @two a b low high _ read =>
      have notOne : ¬a < 0x80 := by omega
      change assemble (.octet a :: .octet b :: rest) = _
      rw [assemble.eq_def]
      simp only [if_neg notOne, if_pos high, read, Option.bind_some]
  | @three a b d low high _ _ read =>
      have notOne : ¬a < 0x80 := by omega
      have notTwo : ¬a < 0xE0 := by omega
      change assemble (.octet a :: .octet b :: .octet d :: rest) = _
      rw [assemble.eq_def]
      simp only [if_neg notOne, if_neg notTwo, if_pos high, read, Option.bind_some]
  | @four a b d e low _ _ _ read =>
      have notOne : ¬a < 0x80 := by omega
      have notTwo : ¬a < 0xE0 := by omega
      have notThree : ¬a < 0xF0 := by omega
      change assemble (.octet a :: .octet b :: .octet d :: .octet e :: rest) = _
      rw [assemble.eq_def]
      simp only [if_neg notOne, if_neg notTwo, if_neg notThree, read, Option.bind_some]

theorem utf8_inj {other : Char} (same : utf8 c = utf8 other) : c = other := by
  have read := assemble_utf8_append c []
  rw [same, assemble_utf8_append] at read
  exact (List.cons.inj (Option.some.inj read)).1.symm

/-- Where the octets of a character end is told by the octets themselves. -/
theorem utf8_append_inj {other : Char} {rest others : List Nat}
    (same : utf8 c ++ rest = utf8 other ++ others) : c = other ∧ rest = others := by
  obtain ⟨first, next, bytes, -, -, length⟩ := exists_utf8_eq c
  obtain ⟨otherFirst, otherNext, otherBytes, -, -, otherLength⟩ := exists_utf8_eq other
  rw [bytes, otherBytes, List.cons_append, List.cons_append] at same
  obtain ⟨sameFirst, sameTail⟩ := List.cons.inj same
  obtain ⟨sameNext, sameRest⟩ :=
    List.append_inj sameTail (by rw [length, otherLength, sameFirst])
  exact ⟨utf8_inj (by rw [bytes, otherBytes, sameFirst, sameNext]), sameRest⟩

end Character

/-! ## Reading parts -/

/-- A character stands in front of the rest of some parts: as it is, or as escapes. -/
def Begins (parts : List Piece) (c : Char) (rest : List Piece) : Prop :=
  parts = .char c :: rest ∨ parts = (utf8 c).map .octet ++ rest

section Parts

variable {parts : List Piece} {c : Char}

/-- What is read from octets begins with a character that they are the octets of. -/
theorem exists_of_assemble_octet {a : Nat} {text : List Char}
    (read : assemble (.octet a :: parts) = some text) :
    ∃ c rest others, .octet a :: parts = (utf8 c).map .octet ++ rest ∧
      assemble rest = some others ∧ text = c :: others := by
  rw [assemble.eq_def] at read
  simp only at read
  split at read
  · next small =>
      obtain ⟨others, restRead, rfl⟩ := Option.map_eq_some_iff.mp read
      exact ⟨_, parts, others, by rw [utf8_ofNat small]; rfl, restRead, rfl⟩
  split at read
  · next b rest =>
      split at read
      · obtain ⟨c, found, read⟩ := Option.bind_eq_some_iff.mp read
        obtain ⟨others, restRead, rfl⟩ := Option.map_eq_some_iff.mp read
        exact ⟨c, rest, others, by rw [two?_eq_some_iff.mp found]; rfl, restRead, rfl⟩
      split at read
      · next d rest =>
          split at read
          · obtain ⟨c, found, read⟩ := Option.bind_eq_some_iff.mp read
            obtain ⟨others, restRead, rfl⟩ := Option.map_eq_some_iff.mp read
            exact ⟨c, rest, others, by rw [three?_eq_some_iff.mp found]; rfl, restRead, rfl⟩
          split at read
          · next e rest =>
              obtain ⟨c, found, read⟩ := Option.bind_eq_some_iff.mp read
              obtain ⟨others, restRead, rfl⟩ := Option.map_eq_some_iff.mp read
              exact ⟨c, rest, others, by rw [four?_eq_some_iff.mp found]; rfl, restRead, rfl⟩
          · cases read
      · cases read
  · cases read

/-- Reading gives a text with a character in front just if the character is in front. -/
theorem assemble_eq_cons_iff {text : List Char} :
    assemble parts = some (c :: text) ↔ ∃ rest, Begins parts c rest ∧ assemble rest = some text := by
  constructor
  · intro read
    match parts, read with
    | .char other :: rest, read =>
        rw [assemble] at read
        obtain ⟨others, restRead, same⟩ := Option.map_eq_some_iff.mp read
        obtain ⟨rfl, rfl⟩ := List.cons.inj same
        exact ⟨rest, .inl rfl, restRead⟩
    | .octet a :: parts, read =>
        obtain ⟨other, rest, others, shape, restRead, same⟩ := exists_of_assemble_octet read
        obtain ⟨rfl, rfl⟩ := List.cons.inj same
        exact ⟨rest, .inr shape, restRead⟩
  · rintro ⟨rest, rfl | rfl, read⟩
    · rw [assemble, read, Option.map_some]
    · rw [assemble_utf8_append, read, Option.map_some]

/-- Octets that continue a character are written as escapes. -/
theorem exists_of_continues {octets bytes : List Nat} (continues : ∀ octet ∈ octets, Continues octet)
    (same : parts.flatMap Piece.octets = octets ++ bytes) :
    ∃ rest, parts = octets.map .octet ++ rest ∧ rest.flatMap Piece.octets = bytes := by
  induction octets generalizing parts with
  | nil => exact ⟨parts, rfl, same⟩
  | cons octet octets ih =>
      obtain ⟨next, others⟩ := List.forall_mem_cons.mp continues
      match parts, same with
      | .char other :: parts, same =>
          obtain ⟨first, tail, encoded, begins, -⟩ := exists_utf8_eq other
          rw [List.flatMap_cons, Piece.octets, encoded] at same
          rw [(List.cons.inj same).1] at begins
          exact absurd next begins
      | .octet a :: parts, same =>
          obtain ⟨rfl, sameRest⟩ := List.cons.inj same
          obtain ⟨rest, rfl, restBytes⟩ := ih others sameRest
          exact ⟨rest, rfl, restBytes⟩

/-- Octets begin with those of a character just if the character is in front. -/
theorem octets_eq_append_iff {bytes : List Nat} :
    parts.flatMap Piece.octets = utf8 c ++ bytes ↔
      ∃ rest, Begins parts c rest ∧ rest.flatMap Piece.octets = bytes := by
  obtain ⟨first, tail, encoded, begins, continues, -⟩ := exists_utf8_eq c
  constructor
  · intro same
    match parts, same with
    | [], same =>
        rw [encoded] at same
        cases same
    | .char other :: parts, same =>
        obtain ⟨rfl, rest⟩ := utf8_append_inj same
        exact ⟨parts, .inl rfl, rest⟩
    | .octet a :: parts, same =>
        rw [encoded] at same
        obtain ⟨rfl, sameTail⟩ := List.cons.inj same
        obtain ⟨rest, rfl, restBytes⟩ := exists_of_continues continues sameTail
        exact ⟨rest, .inr (by rw [encoded]; rfl), restBytes⟩
  · rintro ⟨rest, rfl | rfl, rfl⟩
    · rfl
    · rw [List.flatMap_append, List.flatMap_map]
      simp [Piece.octets]

theorem assemble_eq_nil_iff : assemble parts = some [] ↔ parts.flatMap Piece.octets = [] := by
  match parts with
  | [] => exact iff_of_true rfl rfl
  | .char c :: parts =>
      obtain ⟨first, tail, encoded, -⟩ := exists_utf8_eq c
      simp [assemble, Piece.octets, encoded]
  | .octet a :: parts =>
      refine iff_of_false (fun read => ?_) (fun same => List.cons_ne_nil _ _ same)
      obtain ⟨_, _, _, -, -, same⟩ := exists_of_assemble_octet read
      cases same

/-- Parts are read as the text whose UTF-8 their octets are. -/
theorem assemble_eq_some_iff {text : List Char} :
    assemble parts = some text ↔ parts.flatMap Piece.octets = text.flatMap utf8 := by
  induction text generalizing parts with
  | nil => exact assemble_eq_nil_iff
  | cons c text ih =>
      rw [assemble_eq_cons_iff, List.flatMap_cons, octets_eq_append_iff]
      simp only [ih]

end Parts

/-- A percent-encoded text is decoded to the text whose UTF-8 its octets are. -/
theorem decode?_eq_some_iff {s text : List Char} :
    decode? s = some text ↔ octets s = text.flatMap utf8 :=
  assemble_eq_some_iff

end ControlPlane.Http.Percent
