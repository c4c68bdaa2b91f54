import ControlPlane.Proofs.Result
import ControlPlane.Proofs.Time.Grammar
import ControlPlane.Proofs.Time.Stamp

/-!
# The reader takes what denotes an instant

Every part of the reader takes from the front of a text just what spells its part, if what
follows does not go on with it.  The marks between the numbers see to that, so that the
whole reader takes just the texts that denote an instant.
-/

namespace ControlPlane

/-! ## Runs of digits -/

namespace Text

theorem denotes_of_isDecimal {s : List Char} (nonempty : s ≠ [])
    (decimal : ∀ c ∈ s, isDecimal c = true) :
    Denotes 10 s (ofDigits 10 (s.filterMap decimalDigit?)) := by
  refine ⟨nonempty, s.filterMap decimalDigit?, ?_, (ofDigits_eq 10 _).symm⟩
  clear nonempty
  induction s with
  | nil => exact .nil
  | cons c s ih =>
      rw [List.forall_mem_cons] at decimal
      obtain ⟨d, digit⟩ := Option.isSome_iff_exists.mp decimal.1
      rw [List.filterMap_cons_some digit]
      exact .cons (decimalDigit?_eq_some_iff.mp digit) (ih decimal.2)

theorem Denotes.lt_pow {n : Nat} {s : List Char} (denotes : Denotes 10 s n) :
    n < 10 ^ s.length := by
  obtain ⟨-, digits, run, rfl⟩ := denotes
  have small : ∀ d ∈ digits, d < 10 := by
    induction run with
    | nil => exact fun d dMem => absurd dMem List.not_mem_nil
    | cons first _ ih => exact List.forall_mem_cons.mpr ⟨first.1, ih⟩
  rw [run.length_eq, ← List.length_reverse]
  exact Nat.ofDigits_lt_base_pow_length (by decide) (by simpa using small)

/-- Digits after a number shift it to the left. -/
theorem Denotes.append {m n : Nat} {s t : List Char} (front : Denotes 10 s m)
    (others : Denotes 10 t n) : Denotes 10 (s ++ t) (m * 10 ^ t.length + n) := by
  obtain ⟨nonempty, frontDigits, frontRun, rfl⟩ := front
  obtain ⟨-, digits, run, rfl⟩ := others
  refine ⟨List.append_ne_nil_of_left_ne_nil nonempty t, frontDigits ++ digits,
    List.rel_append frontRun run, ?_⟩
  rw [List.reverse_append, Nat.ofDigits_append, List.length_reverse, ← run.length_eq,
    Nat.add_comm, Nat.mul_comm]

/-- The digits at the front of a number denote what is left of it without the others. -/
theorem Denotes.front {n : Nat} {front others : List Char}
    (denotes : Denotes 10 (front ++ others) n) (nonempty : front ≠ []) :
    Denotes 10 front (n / 10 ^ others.length) := by
  have decimal := denotes.isDecimal_of_mem
  rw [List.forall_mem_append] at decimal
  have frontDenotes := denotes_of_isDecimal nonempty decimal.1
  cases others with
  | nil => simpa using denotes
  | cons c others =>
      have othersDenotes := denotes_of_isDecimal (List.cons_ne_nil c others) decimal.2
      have whole := frontDenotes.append othersDenotes
      rw [← decimalValue?_eq_some_iff] at whole denotes
      obtain rfl := Option.some.inj (denotes.symm.trans whole)
      rwa [Nat.mul_comm, Nat.mul_add_div (Nat.pow_pos (by decide)),
        Nat.div_eq_of_lt othersDenotes.lt_pow]

end Text

namespace Time

namespace StampReader

open Stamp

/-! ## Blanks -/

theorem exists_blanks (s : List Char) : ∃ blanks, Blanks blanks ∧ s = blanks ++ Text.trimLeft s :=
  ⟨s.takeWhile Text.isBlank, fun _ cMem => List.mem_takeWhile_imp cMem,
    List.takeWhile_append_dropWhile.symm⟩

/-- Blanks in front are taken off together. -/
theorem trimLeft_append {blanks : List Char} (blank : Blanks blanks) (s : List Char) :
    Text.trimLeft (blanks ++ s) = Text.trimLeft s :=
  List.dropWhile_append_of_pos blank

theorem trimLeft_of_denotes {digits : List Char} {n : Nat} (denotes : Text.Denotes 10 digits n)
    (rest : List Char) : Text.trimLeft (digits ++ rest) = digits ++ rest := by
  obtain ⟨c, others, rfl⟩ := List.exists_cons_of_ne_nil denotes.1
  exact Text.trimLeft_of_isDecimal (denotes.isDecimal_of_mem c List.mem_cons_self) _

theorem delimited_of_blanks {blanks rest : List Char} (blank : Blanks blanks)
    (delimited : Delimited rest) : Delimited (blanks ++ rest) := by
  cases blanks with
  | nil => exact delimited
  | cons c blanks =>
      rintro _ ⟨⟩
      rw [← Bool.not_eq_true]
      intro digit
      have notBlank := Text.isBlank_of_isDecimal digit
      rw [blank c List.mem_cons_self] at notBlank
      cases notBlank

/-! ## Parts -/

theorem delimited_dropWhile (s : List Char) : Delimited (s.dropWhile Text.isDecimal) := by
  intro c isHead
  have nonempty : s.dropWhile Text.isDecimal ≠ [] := by
    intro isNil
    rw [isNil] at isHead
    cases isHead
  have stops := List.head_dropWhile_not Text.isDecimal nonempty
  rw [List.head?_eq_some_head nonempty] at isHead
  cases isHead
  exact stops

/-- A reader takes from the front of a text just what is spelled, if what follows does not
go on with it. -/
structure Reads {α : Type} (reader : List Char → Except StampFault (α × List Char))
    (spells : List Char → α → Prop) (follows : List Char → Prop) : Prop where
  sound : ∀ {s a rest}, reader s = .ok (a, rest) → ∃ front, s = front ++ rest ∧ spells front a
  complete : ∀ {front a rest}, spells front a → follows rest →
    reader (front ++ rest) = .ok (a, rest)

/-- A number that is read is one of at least one digit and at most as many as are wanted. -/
theorem exists_of_number {width : Option Nat} {s rest : List Char} {n : Nat}
    (positive : ∀ w ∈ width, 0 < w) (read : number width s = .ok (n, rest)) :
    ∃ front, s = front ++ rest ∧ Text.Denotes 10 front n ∧ ∀ w ∈ width, front.length ≤ w := by
  cases s with
  | nil => cases read
  | cons c s =>
      by_cases digit : Text.isDecimal c = true
      · rw [number_cons digit, digits] at read
        split at read
        · cases read
        · injection read with read
          injection read with value left
          subst value left
          have isPrefix : ((window width (c :: s)).takeWhile Text.isDecimal) <+: c :: s := by
            refine (List.takeWhile_prefix _).trans ?_
            cases width with
            | none => exact List.prefix_rfl
            | some w => exact List.take_prefix w _
          refine ⟨_, (List.prefix_iff_eq_append.mp isPrefix).symm,
            Text.denotes_of_isDecimal ?_ fun _ => List.mem_takeWhile_imp, ?_⟩
          · cases width with
            | none => simp [window, digit]
            | some w =>
                obtain ⟨w, rfl⟩ := Nat.exists_eq_succ_of_ne_zero (Nat.ne_of_gt (positive w rfl))
                simp [window, digit]
          · rintro w rfl
            exact Nat.le_trans (List.takeWhile_prefix _).length_le (List.length_take_le w _)
      · simp [number, digit] at read

/-- A number of few digits is far below the greatest one that is read. -/
theorem le_numberLimit_of_length_le {n : Nat} {s : List Char} (denotes : Text.Denotes 10 s n)
    (short : s.length ≤ 9) : n ≤ numberLimit := by
  have bound : 10 ^ s.length ≤ 10 ^ 9 := Nat.pow_le_pow_right (by decide) short
  have small := denotes.lt_pow
  rw [numberLimit]
  omega

theorem reads_bounded (low high : Nat) :
    Reads (bounded low high) (SpellsNumber low high) Delimited where
  sound := by
    intro s n rest read
    obtain ⟨⟨value, left⟩, number, checked⟩ := bind_eq_ok_iff.mp read
    simp only at checked
    split at checked
    · next within =>
        cases checked
        obtain ⟨blanks, blank, split⟩ := exists_blanks s
        obtain ⟨digits, front, denotes, short⟩ := exists_of_number (by simp) number
        rw [front, ← List.append_assoc] at split
        exact ⟨_, split, .intro blank denotes (short 2 rfl) within.1 within.2⟩
    · cases checked
  complete := by
    rintro _ n rest ⟨blank, denotes, short, low_le, le_high⟩ delimited
    rw [List.append_assoc, bounded, trimLeft_append blank, trimLeft_of_denotes denotes,
      number_of_delimited denotes (le_numberLimit_of_length_le denotes (by omega)) (by simpa)
        delimited]
    exact if_pos ⟨low_le, le_high⟩

theorem mark_sound {c : Char} {s rest : List Char} (read : mark c s = .ok rest) :
    ∃ front, s = front ++ rest ∧ SpellsMark c front := by
  obtain ⟨blanks, blank, split⟩ := exists_blanks s
  rw [mark] at read
  split at read
  · cases read
  · next first left found =>
      split at read
      · next isMark =>
          cases read
          rw [found, isMark, List.append_cons] at split
          exact ⟨_, split, .intro blank⟩
      · cases read

theorem mark_complete {c : Char} (notBlank : Text.isBlank c = false) {front : List Char}
    (spells : SpellsMark c front) (rest : List Char) : mark c (front ++ rest) = .ok rest := by
  obtain ⟨blank⟩ := spells
  rw [List.append_assoc, mark, trimLeft_append blank]
  exact mark_cons notBlank rest

/-- Numbers end where a mark follows. -/
theorem delimited_of_spellsMark {c : Char} (noDigit : Text.isDecimal c = false)
    {front : List Char} (spells : SpellsMark c front) (rest : List Char) :
    Delimited (front ++ rest) := by
  obtain ⟨blank⟩ := spells
  rw [List.append_assoc]
  exact delimited_of_blanks blank (by rintro _ ⟨⟩; exact noDigit)

/-! ## Dates -/

theorem year_append {blanks : List Char} (blank : Blanks blanks) (s : List Char) :
    year (blanks ++ s) = year s := by
  simp only [year, trimLeft_append blank]

theorem reads_year : Reads year SpellsYear Delimited where
  sound := by
    intro s y rest read
    have inRange (sign : Nat → Int) {result : Except StampFault (Nat × List Char)}
        (read : ((result.map fun x => (sign x.1, x.2)) >>= fun x =>
          if -2147483648 ≤ x.1 ∧ x.1 < 2147483648 then pure (x.1, x.2)
          else .error .outOfRange) = .ok (y, rest)) :
        ∃ n, result = .ok (n, rest) ∧ y = sign n ∧ -2147483648 ≤ y ∧ y < 2147483648 := by
      obtain ⟨_, signed, checked⟩ := bind_eq_ok_iff.mp read
      obtain ⟨⟨n, left⟩, number, rfl⟩ := map_eq_ok_iff.mp signed
      split at checked
      · next within =>
          cases checked
          exact ⟨n, number, rfl, within⟩
      · cases checked
    obtain ⟨blanks, blank, spelled⟩ := exists_blanks s
    rw [year] at read
    split at read
    · next digits isMinus =>
        obtain ⟨n, number, rfl, within⟩ := inRange (fun n => -n) read
        obtain ⟨digits, rfl, denotes, -⟩ := exists_of_number (by simp) number
        rw [isMinus, ← List.cons_append, ← List.append_assoc] at spelled
        exact ⟨_, spelled, .minus blank denotes (by omega)⟩
    · next digits isPlus =>
        obtain ⟨n, number, rfl, within⟩ := inRange (fun n => n) read
        obtain ⟨digits, rfl, denotes, -⟩ := exists_of_number (by simp) number
        rw [isPlus, ← List.cons_append, ← List.append_assoc] at spelled
        exact ⟨_, spelled, .plus blank denotes (by omega)⟩
    · obtain ⟨n, number, rfl, within⟩ := inRange (fun n => n) read
      obtain ⟨digits, front, denotes, short⟩ := exists_of_number (by simp) number
      rw [front, ← List.append_assoc] at spelled
      exact ⟨_, spelled, .plain blank denotes (short 4 rfl)⟩
  complete := by
    rintro _ y rest spells delimited
    cases spells with
    | @plain blanks digits n blank denotes short =>
        have small := denotes.lt_pow
        have bound : 10 ^ digits.length ≤ 10 ^ 4 := Nat.pow_le_pow_right (by decide) short
        have number := number_of_delimited denotes
          (le_numberLimit_of_length_le denotes (by omega)) (by simpa : ∀ w ∈ some 4, _) delimited
        obtain ⟨c, others, rfl⟩ := List.exists_cons_of_ne_nil denotes.1
        rw [List.append_assoc, year_append blank, List.cons_append]
        exact year_of_digit (denotes.isDecimal_of_mem c List.mem_cons_self) number (by omega)
    | plus blank denotes small =>
        have number := number_of_delimited denotes (Nat.le_trans (Nat.le_of_lt small) (by decide))
          (by simp : ∀ w ∈ none, _) delimited
        rw [List.append_assoc, year_append blank]
        exact year_plus number small
    | minus blank denotes small =>
        have number := number_of_delimited denotes (Nat.le_trans small (by decide))
          (by simp : ∀ w ∈ none, _) delimited
        rw [List.append_assoc, year_append blank]
        exact year_minus number small

theorem reads_date : Reads date SpellsDate Delimited where
  sound := by
    intro s d rest read
    obtain ⟨⟨y, s₁⟩, yearRead, read⟩ := bind_eq_ok_iff.mp read
    obtain ⟨s₂, dashRead, read⟩ := bind_eq_ok_iff.mp read
    obtain ⟨⟨m, s₃⟩, monthRead, read⟩ := bind_eq_ok_iff.mp read
    obtain ⟨s₄, dashRead', read⟩ := bind_eq_ok_iff.mp read
    obtain ⟨⟨d, s₅⟩, dayRead, read⟩ := bind_eq_ok_iff.mp read
    cases read
    obtain ⟨years, rfl, yearText⟩ := reads_year.sound yearRead
    obtain ⟨dash, rfl, isDash⟩ := mark_sound dashRead
    obtain ⟨months, rfl, monthText⟩ := (reads_bounded 1 12).sound monthRead
    obtain ⟨dash', rfl, isDash'⟩ := mark_sound dashRead'
    obtain ⟨days, rfl, dayText⟩ := (reads_bounded 1 31).sound dayRead
    exact ⟨_, by simp only [List.append_assoc],
      .intro yearText isDash monthText isDash' dayText⟩
  complete := by
    rintro _ _ rest ⟨yearText, isDash, monthText, isDash', dayText⟩ delimited
    simp only [List.append_assoc]
    have atDash {dash : List Char} (isDash : SpellsMark '-' dash) (rest : List Char) :
        Delimited (dash ++ rest) :=
      delimited_of_spellsMark (by decide) isDash rest
    exact bind_eq_ok_iff.mpr ⟨_, reads_year.complete yearText (atDash isDash _),
      bind_eq_ok_iff.mpr ⟨_, mark_complete (by decide) isDash _,
      bind_eq_ok_iff.mpr ⟨_, (reads_bounded 1 12).complete monthText (atDash isDash' _),
      bind_eq_ok_iff.mpr ⟨_, mark_complete (by decide) isDash' _,
      bind_eq_ok_iff.mpr ⟨_, (reads_bounded 1 31).complete dayText delimited, rfl⟩⟩⟩⟩⟩

/-! ## Times of day -/

/-- At most nine digits are taken, and the others are dropped. -/
theorem fraction_of_number {front others rest : List Char} {value : Nat}
    (read : number (some 9) (front ++ (others ++ rest)) = .ok (value, others ++ rest))
    (decimal : ∀ c ∈ others, Text.isDecimal c = true) (delimited : Delimited rest) :
    fraction ('.' :: (front ++ (others ++ rest))) =
      .ok (value * 10 ^ (9 - front.length), rest) := by
  have taken : (front ++ (others ++ rest)).length - (others ++ rest).length = front.length := by
    rw [List.length_append, Nat.add_sub_cancel]
  have left : (others ++ rest).dropWhile Text.isDecimal = rest := by
    have split := List.takeWhile_append_dropWhile (p := Text.isDecimal) (l := rest)
    rw [delimited.takeWhile, List.nil_append] at split
    rw [List.dropWhile_append_of_pos decimal, split]
  simp only [fraction, read, bind, Except.bind, taken, left]
  rfl

/-- The digits after a point count down to nanoseconds. -/
theorem fraction_point {digits rest : List Char} {n : Nat} (denotes : Text.Denotes 10 digits n)
    (delimited : Delimited rest) :
    fraction ('.' :: (digits ++ rest)) =
      .ok (n * 1000000000 / 10 ^ digits.length, rest) := by
  by_cases short : digits.length ≤ 9
  · have read : number (some 9) (digits ++ ([] ++ rest)) = .ok (n, [] ++ rest) :=
      number_of_delimited denotes (le_numberLimit_of_length_le denotes short) (by simpa) delimited
    have scaled : 1000000000 = 10 ^ (9 - digits.length) * 10 ^ digits.length := by
      rw [← Nat.pow_add, Nat.sub_add_cancel short]
    have whole := fraction_of_number read (by simp) delimited
    rwa [scaled, ← Nat.mul_assoc, Nat.mul_div_cancel _ (Nat.pow_pos (by decide))]
  · have nine : (digits.take 9).length = 9 := List.length_take_of_le (Nat.le_of_not_le short)
    have split : digits.take 9 ++ digits.drop 9 = digits := List.take_append_drop 9 digits
    have decimal := denotes.isDecimal_of_mem
    rw [← split] at denotes
    have front := denotes.front (List.ne_nil_of_length_pos (by omega))
    have read := number_of_length front (le_numberLimit_of_length_le front (by omega))
      (digits.drop 9 ++ rest)
    rw [nine] at read
    have whole := fraction_of_number read
      (fun c cMem => decimal c (List.mem_of_mem_drop cMem)) delimited
    have scaled : 10 ^ digits.length = 10 ^ (digits.drop 9).length * 1000000000 := by
      rw [List.length_drop, ← Nat.pow_add 10 _ 9, Nat.sub_add_cancel (Nat.le_of_not_le short)]
    rw [nine, Nat.sub_self, Nat.pow_zero, Nat.mul_one, ← List.append_assoc, split] at whole
    rw [whole, scaled, Nat.mul_div_mul_right _ _ (by decide)]

/-- Seconds end where a fraction begins or the time ends. -/
theorem delimited_of_fraction {fraction rest : List Char} {nano : Nat}
    (spells : SpellsFraction fraction nano) (ends : EndsTime rest) :
    Delimited (fraction ++ rest) := by
  cases spells with
  | none => exact ends.1
  | point denotes =>
      rintro _ ⟨⟩
      decide

theorem reads_fraction : Reads fraction SpellsFraction EndsTime where
  sound := by
    intro s nano rest read
    have reread := read
    rw [fraction.eq_def] at reread
    split at reread
    · next t =>
        obtain ⟨⟨value, left⟩, number, -⟩ := bind_eq_ok_iff.mp reread
        obtain ⟨front, isFront, denotes, -⟩ := exists_of_number (by simp) number
        obtain ⟨c, others, rfl⟩ := List.exists_cons_of_ne_nil denotes.1
        have first := denotes.isDecimal_of_mem c List.mem_cons_self
        have nonempty : t.takeWhile Text.isDecimal ≠ [] := by simp [isFront, first]
        have whole := Text.denotes_of_isDecimal nonempty fun _ => List.mem_takeWhile_imp
        have point := fraction_point whole (delimited_dropWhile t)
        rw [List.takeWhile_append_dropWhile, read] at point
        cases point
        exact ⟨'.' :: t.takeWhile Text.isDecimal,
          by rw [List.cons_append, List.takeWhile_append_dropWhile], .point whole⟩
    · cases reread
      exact ⟨[], rfl, .none⟩
  complete := by
    rintro _ nano rest spells ends
    cases spells with
    | none => exact fraction_of_no_point ends.2
    | point denotes => exact fraction_point denotes ends.1

/-- Second sixty is the fifty-ninth with a whole second more. -/
theorem leapSecond_eq {second : Nat} (atMost : second ≤ 60) (before nano : Nat) :
    (before + (second - if second = 60 then 1 else 0),
        nano + (if second = 60 then 1 else 0) * 1000000000) =
      (before + min second 59, nano + if second = 60 then 1000000000 else 0) := by
  by_cases isLeap : second = 60
  · simp [isLeap]
  · have ordinary : second ≤ 59 := by omega
    simp [isLeap, ordinary]

theorem reads_time : Reads time SpellsTime EndsTime where
  sound := by
    intro s t rest read
    obtain ⟨⟨h, s₁⟩, hourRead, read⟩ := bind_eq_ok_iff.mp read
    obtain ⟨s₂, colonRead, read⟩ := bind_eq_ok_iff.mp read
    obtain ⟨⟨m, s₃⟩, minuteRead, read⟩ := bind_eq_ok_iff.mp read
    obtain ⟨s₄, colonRead', read⟩ := bind_eq_ok_iff.mp read
    obtain ⟨⟨second, s₅⟩, secondRead, read⟩ := bind_eq_ok_iff.mp read
    obtain ⟨⟨nano, s₆⟩, fractionRead, read⟩ := bind_eq_ok_iff.mp read
    cases read
    obtain ⟨hours, rfl, hourText⟩ := (reads_bounded 0 23).sound hourRead
    obtain ⟨colon, rfl, isColon⟩ := mark_sound colonRead
    obtain ⟨minutes, rfl, minuteText⟩ := (reads_bounded 0 59).sound minuteRead
    obtain ⟨colon', rfl, isColon'⟩ := mark_sound colonRead'
    obtain ⟨seconds, rfl, secondText⟩ := (reads_bounded 0 60).sound secondRead
    obtain ⟨fraction, rfl, fractionText⟩ := reads_fraction.sound fractionRead
    rw [leapSecond_eq secondText.le_high]
    exact ⟨_, by simp only [List.append_assoc],
      .intro hourText isColon minuteText isColon' secondText fractionText⟩
  complete := by
    rintro _ _ rest ⟨hourText, isColon, minuteText, isColon', secondText, fractionText⟩ ends
    have atColon {colon : List Char} (isColon : SpellsMark ':' colon) (rest : List Char) :
        Delimited (colon ++ rest) :=
      delimited_of_spellsMark (by decide) isColon rest
    rw [← leapSecond_eq secondText.le_high]
    simp only [List.append_assoc]
    exact bind_eq_ok_iff.mpr ⟨_, (reads_bounded 0 23).complete hourText (atColon isColon _),
      bind_eq_ok_iff.mpr ⟨_, mark_complete (by decide) isColon _,
      bind_eq_ok_iff.mpr ⟨_, (reads_bounded 0 59).complete minuteText (atColon isColon' _),
      bind_eq_ok_iff.mpr ⟨_, mark_complete (by decide) isColon' _,
      bind_eq_ok_iff.mpr ⟨_, (reads_bounded 0 60).complete secondText
        (delimited_of_fraction fractionText ends),
      bind_eq_ok_iff.mpr ⟨_, reads_fraction.complete fractionText ends, rfl⟩⟩⟩⟩⟩⟩

/-! ## Zones -/

theorem reads_twoDigits (tensLimit : Nat) :
    Reads (twoDigits tensLimit) (SpellsTwo (tensLimit * 10 + 9)) fun _ => True where
  sound := by
    intro s n rest read
    rw [twoDigits.eq_def] at read
    split at read
    · cases read
    · split at read <;> cases read
    · next a b _ =>
        split at read
        · next tens ones tensRead onesRead =>
            split at read
            · next inRange =>
                cases read
                have tensDigit := Text.decimalDigit?_eq_some_iff.mp tensRead
                have onesDigit := Text.decimalDigit?_eq_some_iff.mp onesRead
                have small := onesDigit.1
                refine ⟨[a, b], rfl, ⟨List.cons_ne_nil _ _, [tens, ones],
                  .cons tensDigit (.cons onesDigit .nil), ?_⟩, rfl, by omega⟩
                simp [Nat.ofDigits_cons]
                omega
            · cases read
        · cases read
  complete := by
    rintro front n rest ⟨⟨-, digits, run, rfl⟩, length, le_high⟩ -
    obtain ⟨a, b, rfl⟩ := List.length_eq_two.mp length
    obtain ⟨tens, _, tensDigit, after, rfl⟩ := List.forall₂_cons_left_iff.mp run
    obtain ⟨ones, _, onesDigit, nothing, rfl⟩ := List.forall₂_cons_left_iff.mp after
    obtain rfl := List.forall₂_nil_left_iff.mp nothing
    have value : Nat.ofDigits 10 [tens, ones].reverse = tens * 10 + ones := by
      simp [Nat.ofDigits_cons]
      omega
    rw [value] at le_high ⊢
    have inRange : tens ≤ tensLimit := by omega
    simp only [twoDigits, List.cons_append, List.nil_append,
      Text.decimalDigit?_eq_some_iff.mpr tensDigit, Text.decimalDigit?_eq_some_iff.mpr onesDigit,
      if_pos inRange]

theorem eq_of_toLower_eq_u {c : Char} (isU : c.toLower = 'u') : c = 'u' ∨ c = 'U' := by
  unfold Char.toLower at isU
  split at isU
  · next isUpper =>
      have high : c.val.toNat ≤ 90 := isUpper.2
      have value : (c.val + 32).toNat = 117 := congrArg Char.toNat isU
      have sum : (c.val.toNat + 32) % 4294967296 = 117 := value
      refine .inr (Char.toNat_inj.mp ?_)
      change c.val.toNat = 85
      omega
  · exact .inl isU

theorem universal?_eq_some_iff {s rest : List Char} :
    universal? s = some rest ↔ ∃ a b c, s = a :: b :: c :: rest ∧
      a.toLower = 'u' ∧ b.toLower = 't' ∧ c.toLower = 'c' := by
  rw [universal?.eq_def]
  split
  · next a b c left =>
      constructor
      · intro found
        split at found
        · next named =>
            cases found
            exact ⟨a, b, c, rfl, named⟩
        · cases found
      · rintro ⟨_, _, _, ⟨⟩, named⟩
        exact if_pos named
  · next short =>
      refine iff_of_false nofun ?_
      rintro ⟨a, b, c, rfl, -⟩
      exact short a b c rest rfl

theorem universal?_of_ne {c : Char} (noU : c.toLower ≠ 'u') (s : List Char) :
    universal? (c :: s) = none := by
  rw [Option.eq_none_iff_forall_not_mem]
  intro rest found
  obtain ⟨_, _, _, ⟨⟩, isU, -⟩ := universal?_eq_some_iff.mp found
  exact noU isU

theorem offsetSign_eq_ok_iff {s rest : List Char} {west : Bool} :
    offsetSign s = .ok (west, rest) ↔ ∃ c, s = c :: rest ∧
      ((c = '+' ∧ west = false) ∨ ((c = '-' ∨ c = '\u2212') ∧ west = true)) := by
  rw [offsetSign.eq_def]
  split
  · simp
  · next c left =>
      constructor
      · intro signed
        split at signed
        · next isPlus =>
            cases signed
            exact ⟨c, rfl, .inl ⟨isPlus, rfl⟩⟩
        split at signed
        · next isMinus =>
            cases signed
            exact ⟨c, rfl, .inr ⟨isMinus, rfl⟩⟩
        · cases signed
      · rintro ⟨_, ⟨⟩, ⟨rfl, rfl⟩ | ⟨isMinus, rfl⟩⟩
        · rfl
        · have noPlus : c ≠ '+' := by
            rintro rfl
            exact absurd isMinus (by decide)
          rw [if_neg noPlus, if_pos isMinus]

theorem zone_append {blanks : List Char} (blank : Blanks blanks) (s : List Char) :
    zone (blanks ++ s) = zone s := by
  simp only [zone, trimLeft_append blank]

theorem zone_name {a b c : Char} (isU : a.toLower = 'u') (isT : b.toLower = 't')
    (isC : c.toLower = 'c') (rest : List Char) : zone (a :: b :: c :: rest) = .ok (0, rest) := by
  have trimmed : Text.trimLeft (a :: b :: c :: rest) = a :: b :: c :: rest := by
    rcases eq_of_toLower_eq_u isU with rfl | rfl <;> rfl
  have found : universal? (a :: b :: c :: rest) = some rest :=
    universal?_eq_some_iff.mpr ⟨a, b, c, rfl, isU, isT, isC⟩
  simp only [zone, trimmed, found]
  rfl

theorem zone_letter {c : Char} (isZ : c = 'Z' ∨ c = 'z') (rest : List Char) :
    zone (c :: rest) = .ok (0, rest) := by
  rcases isZ with rfl | rfl
  · have trimmed : Text.trimLeft ('Z' :: rest) = 'Z' :: rest := rfl
    have noName : universal? ('Z' :: rest) = none := universal?_of_ne (by decide) rest
    simp only [zone, trimmed, noName]
    rfl
  · have trimmed : Text.trimLeft ('z' :: rest) = 'z' :: rest := rfl
    have noName : universal? ('z' :: rest) = none := universal?_of_ne (by decide) rest
    simp only [zone, trimmed, noName]
    rfl

/-- Hours and minutes after a sign. -/
theorem zone_signed {sign : Char} {west : Bool} {hours between minutes : List Char}
    {hour minute : Nat}
    (isSign : (sign = '+' ∧ west = false) ∨ ((sign = '-' ∨ sign = '\u2212') ∧ west = true))
    (hourText : SpellsTwo 99 hours hour) (isBetween : ∀ c ∈ between, c = ':' ∨ Text.isBlank c)
    (minuteText : SpellsTwo 59 minutes minute) (rest : List Char) :
    zone (sign :: (hours ++ (between ++ minutes)) ++ rest) =
      .ok (if west then -(hour * 3600 + minute * 60 : Int) else hour * 3600 + minute * 60,
        rest) := by
  simp only [List.cons_append, List.append_assoc]
  generalize isTail : hours ++ (between ++ (minutes ++ rest)) = t
  have signed : offsetSign (sign :: t) = .ok (west, t) :=
    offsetSign_eq_ok_iff.mpr ⟨sign, rfl, isSign⟩
  have notBlank : Text.isBlank sign = false := by
    rcases isSign with ⟨rfl, -⟩ | ⟨rfl | rfl, -⟩ <;> rfl
  have noLetter : sign.toLower ≠ 'u' ∧ sign ≠ 'Z' ∧ sign ≠ 'z' := by
    rcases isSign with ⟨rfl, -⟩ | ⟨rfl | rfl, -⟩ <;> decide
  have trimmed : Text.trimLeft (sign :: t) = sign :: t :=
    List.dropWhile_cons_of_neg (by simp [notBlank])
  have hourRead : twoDigits 9 t = .ok (hour, between ++ (minutes ++ rest)) := by
    rw [← isTail]
    exact (reads_twoDigits 9).complete hourText trivial
  have minuteRead : twoDigits 5 (minutes ++ rest) = .ok (minute, rest) :=
    (reads_twoDigits 5).complete minuteText trivial
  have dropped : (between ++ (minutes ++ rest)).dropWhile
      (fun c => c = ':' || Text.isBlank c) = minutes ++ rest := by
    rw [List.dropWhile_append_of_pos (by simpa using isBetween)]
    obtain ⟨c, others, rfl⟩ := List.exists_cons_of_ne_nil minuteText.denotes.1
    have digit := minuteText.denotes.isDecimal_of_mem c List.mem_cons_self
    have noColon : c ≠ ':' := by
      rintro rfl
      exact absurd digit (by decide)
    exact List.dropWhile_cons_of_neg (by simp [noColon, Text.isBlank_of_isDecimal digit])
  simp only [zone, trimmed, universal?_of_ne noLetter.1]
  split
  · next same => exact absurd (List.cons.inj same).1 noLetter.2.1
  · next same => exact absurd (List.cons.inj same).1 noLetter.2.2
  · simp only [signed, hourRead, dropped, minuteRead, bind, Except.bind]
    rfl

theorem reads_zone : Reads zone SpellsZone fun _ => True where
  sound := by
    intro s offset rest read
    obtain ⟨blanks, blank, spelled⟩ := exists_blanks s
    rw [zone] at read
    split at read
    · next left found =>
        cases read
        obtain ⟨a, b, c, named, isU, isT, isC⟩ := universal?_eq_some_iff.mp found
        rw [named] at spelled
        exact ⟨blanks ++ [a, b, c], by simp [spelled], .intro blank (.name isU isT isC)⟩
    · split at read
      · next left isLetter =>
          cases read
          rw [isLetter] at spelled
          exact ⟨blanks ++ ['Z'], by simp [spelled], .intro blank (.letter (.inl rfl))⟩
      · next left isLetter =>
          cases read
          rw [isLetter] at spelled
          exact ⟨blanks ++ ['z'], by simp [spelled], .intro blank (.letter (.inr rfl))⟩
      · obtain ⟨⟨west, s₁⟩, signRead, read⟩ := bind_eq_ok_iff.mp read
        obtain ⟨⟨hour, s₂⟩, hourRead, read⟩ := bind_eq_ok_iff.mp read
        obtain ⟨⟨minute, s₃⟩, minuteRead, read⟩ := bind_eq_ok_iff.mp read
        cases read
        obtain ⟨sign, isTail, isSign⟩ := offsetSign_eq_ok_iff.mp signRead
        obtain ⟨hours, rfl, hourText⟩ := (reads_twoDigits 9).sound hourRead
        obtain ⟨minutes, isMinutes, minuteText⟩ := (reads_twoDigits 5).sound minuteRead
        let isMark (c : Char) : Bool := c = ':' || Text.isBlank c
        have split : s₂ = s₂.takeWhile isMark ++ (minutes ++ rest) := by
          rw [← isMinutes, List.takeWhile_append_dropWhile]
        have isBetween : ∀ c ∈ s₂.takeWhile isMark, c = ':' ∨ Text.isBlank c = true := by
          intro c cMem
          simpa [isMark] using List.mem_takeWhile_imp cMem
        generalize s₂.takeWhile isMark = between at split isBetween
        subst split
        rw [isTail] at spelled
        refine ⟨blanks ++ sign :: (hours ++ (between ++ minutes)), by simp [spelled], ?_⟩
        rcases isSign with ⟨rfl, rfl⟩ | ⟨isMinus, rfl⟩
        · exact .intro blank (.east hourText isBetween minuteText)
        · exact .intro blank (.west isMinus hourText isBetween minuteText)
  complete := by
    rintro _ offset rest ⟨blank, offsetText⟩ -
    rw [List.append_assoc, zone_append blank]
    cases offsetText with
    | letter isZ => exact zone_letter isZ rest
    | name isU isT isC => exact zone_name isU isT isC rest
    | east hourText isBetween minuteText =>
        exact zone_signed (.inl ⟨rfl, rfl⟩) hourText isBetween minuteText rest
    | west isMinus hourText isBetween minuteText =>
        exact zone_signed (.inr ⟨isMinus, rfl⟩) hourText isBetween minuteText rest

theorem endsTime_cons {c : Char} (noDigit : Text.isDecimal c = false) (noPoint : c ≠ '.')
    (s : List Char) : EndsTime (c :: s) := by
  refine ⟨?_, by simpa using noPoint⟩
  rintro _ ⟨⟩
  exact noDigit

/-- A zone ends a time of day. -/
theorem endsTime_of_spellsZone {s : List Char} {offset : Int} (spells : SpellsZone s offset)
    (rest : List Char) : EndsTime (s ++ rest) := by
  obtain @⟨blanks, s, _, blank, offsetText⟩ := spells
  cases blanks with
  | nil =>
      cases offsetText with
      | letter isZ => rcases isZ with rfl | rfl <;> exact endsTime_cons (by decide) (by decide) _
      | name isU isT isC =>
          rcases eq_of_toLower_eq_u isU with rfl | rfl <;>
            exact endsTime_cons (by decide) (by decide) _
      | east hourText isBetween minuteText => exact endsTime_cons (by decide) (by decide) _
      | west isMinus hourText isBetween minuteText =>
          rcases isMinus with rfl | rfl <;> exact endsTime_cons (by decide) (by decide) _
  | cons c blanks =>
      have isBlank := blank c List.mem_cons_self
      refine endsTime_cons ?_ ?_ _
      · rw [← Bool.not_eq_true]
        intro digit
        rw [Text.isBlank_of_isDecimal digit] at isBlank
        cases isBlank
      · rintro rfl
        exact absurd isBlank (by decide)

/-! ## Instants -/

theorem separator_eq_ok_iff {s rest : List Char} :
    separator s = .ok rest ↔ ∃ c, s = c :: rest ∧ (c = 't' ∨ c = 'T' ∨ c = ' ') := by
  rw [separator.eq_def]
  split
  · simp
  · next c left =>
      constructor
      · intro read
        split at read
        · next isSeparator =>
            cases read
            exact ⟨c, rfl, isSeparator⟩
        · cases read
      · rintro ⟨_, ⟨⟩, isSeparator⟩
        exact if_pos isSeparator

theorem of?_eq_some_iff {day : Int} {second nano : Nat} {i : Instant} :
    Instant.of? day second nano = some i ↔ i.day = day ∧ i.second = second ∧ i.nano = nano := by
  rw [Instant.of?]
  constructor
  · intro built
    split at built
    · cases built
      exact ⟨rfl, rfl, rfl⟩
    · cases built
  · rintro ⟨rfl, rfl, rfl⟩
    exact dif_pos ⟨i.firstDay_le, i.le_lastDay, i.second_lt, i.nano_lt, i.leap⟩

/-- A date and a time are assembled to the instant that they mean. -/
theorem assemble_eq_ok_iff {d : Date} {second nano : Nat} {offset : Int} {i : Instant} :
    assemble d second nano offset = .ok i ↔ Means d (second, nano) offset i := by
  have inDay := i.second_lt
  have sameInstant :
      (i.day = d.toDays + ((second : Int) - offset) / 86400 ∧
        i.second = (((second : Int) - offset) % 86400).toNat ∧ i.nano = nano) ↔
      i.unixSeconds = d.toDays * 86400 + second - offset ∧ i.nano = nano := by
    rw [Instant.unixSeconds]
    omega
  rw [assemble]
  constructor
  · intro assembled
    split at assembled
    · cases assembled
    · next inBounds =>
        simp only [not_or, Bool.not_eq_true, Bool.not_eq_false', Bool.and_eq_true,
          decide_eq_true_eq, Nat.not_le] at inBounds
        obtain ⟨⟨⟨valid, low⟩, high⟩, withinDay⟩ := inBounds
        simp only at assembled
        split at assembled
        · next built =>
            cases assembled
            obtain ⟨seconds, nanos⟩ := sameInstant.mp (of?_eq_some_iff.mp built)
            exact ⟨valid, low, high, withinDay, seconds, nanos⟩
        · cases assembled
  · rintro ⟨valid, low, high, withinDay, seconds, nanos⟩
    have built := of?_eq_some_iff.mpr (sameInstant.mpr ⟨seconds, nanos⟩)
    simp only [valid, low, high, decide_true, Bool.and_self, Bool.not_true, Bool.false_eq_true,
      false_or, if_neg (Nat.not_le.mpr withinDay), built]

/-- Exactly the texts that denote an instant are read, to this instant. -/
theorem read_eq_ok_iff {s : List Char} {i : Instant} : read s = .ok i ↔ Denotes s i := by
  constructor
  · intro result
    obtain ⟨⟨d, s₁⟩, dateRead, result⟩ := bind_eq_ok_iff.mp result
    obtain ⟨s₂, separatorRead, result⟩ := bind_eq_ok_iff.mp result
    obtain ⟨⟨⟨second, nano⟩, s₃⟩, timeRead, result⟩ := bind_eq_ok_iff.mp result
    obtain ⟨⟨offset, s₄⟩, zoneRead, assembled⟩ := bind_eq_ok_iff.mp result
    simp only at assembled
    split at assembled
    · next nothing =>
        obtain ⟨date, rfl, dateText⟩ := reads_date.sound dateRead
        obtain ⟨separator, rfl, isSeparator⟩ := separator_eq_ok_iff.mp separatorRead
        obtain ⟨time, rfl, timeText⟩ := reads_time.sound timeRead
        obtain ⟨zone, rfl, zoneText⟩ := reads_zone.sound zoneRead
        obtain ⟨blanks, blank, split⟩ := exists_blanks s₄
        rw [List.isEmpty_iff.mp nothing, List.append_nil] at split
        subst split
        exact .intro dateText isSeparator timeText zoneText blank
          (assemble_eq_ok_iff.mp assembled)
    · cases assembled
  · rintro @⟨date, time, zone, blanks, separator, d, ⟨second, nano⟩, offset, _, dateText,
      isSeparator, timeText, zoneText, blank, means⟩
    have nothing : Text.trimLeft blanks = [] := List.dropWhile_eq_nil_iff.mpr blank
    have ends : Delimited (separator :: (time ++ (zone ++ blanks))) := by
      rintro _ ⟨⟩
      rcases isSeparator with rfl | rfl | rfl <;> decide
    refine bind_eq_ok_iff.mpr ⟨_, reads_date.complete dateText ends,
      bind_eq_ok_iff.mpr ⟨_, separator_eq_ok_iff.mpr ⟨_, rfl, isSeparator⟩,
      bind_eq_ok_iff.mpr ⟨_, reads_time.complete timeText (endsTime_of_spellsZone zoneText _),
      bind_eq_ok_iff.mpr ⟨_, reads_zone.complete zoneText trivial, ?_⟩⟩⟩⟩
    simp only [nothing, List.isEmpty_nil, if_true]
    exact assemble_eq_ok_iff.mpr means

end StampReader

/-- Exactly the texts that denote an instant are instants. -/
theorem Instant.ofText_eq_ok_iff {s : String} {i : Instant} :
    ofText s = .ok i ↔ Stamp.Denotes s.toList i :=
  StampReader.read_eq_ok_iff

/-- No text denotes two instants. -/
theorem Stamp.Denotes.unique {s : String} {i j : Instant} (first : Denotes s.toList i)
    (second : Denotes s.toList j) : i = j := by
  rw [← Instant.ofText_eq_ok_iff] at first second
  exact Except.ok.inj (first.symm.trans second)

end Time

end ControlPlane
