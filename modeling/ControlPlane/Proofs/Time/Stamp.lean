import ControlPlane.Proofs.Text.Positional
import ControlPlane.Proofs.Time.Calendar
import ControlPlane.Time.Stamp
import Mathlib.Data.List.TakeWhile

/-!
# Written instants are read back

Every number of a written instant is followed by a mark or has all the digits that are
read, so the numbers are read one after another as they are written.  The date is that of
the day of the instant, and the day is found from it again.
-/

namespace ControlPlane

/-! ## Padded numbers -/

namespace Text

theorem Denotes.zeros {base n : Nat} (positive : 0 < base) {s : List Char}
    (denotes : Denotes base s n) (count : Nat) :
    Denotes base (List.replicate count '0' ++ s) n := by
  induction count with
  | zero => exact denotes
  | succ count ih =>
      obtain ⟨-, digits, run, value⟩ := ih
      refine ⟨List.cons_ne_nil _ _, 0 :: digits, .cons ⟨positive, .inl rfl⟩ run, ?_⟩
      rw [List.reverse_cons, Nat.ofDigits_append, value]
      simp

/-- A padded number denotes the number. -/
theorem denotes_padded (width n : Nat) : Denotes 10 (padded width n) n :=
  (decimalValue?_eq_some_iff.mp (decimalValue?_decimal n)).zeros (by decide) _

theorem length_padded {width n : Nat} (positive : 0 < width) (fits : n < 10 ^ width) :
    (padded width n).length = width := by
  have short : (decimal n).length ≤ width :=
    (Nat.length_toDigits_le_iff (by decide) positive).mpr fits
  rw [padded, List.length_append, List.length_replicate]
  omega

theorem Denotes.isDecimal_of_mem {n : Nat} {s : List Char} (denotes : Denotes 10 s n) :
    ∀ c ∈ s, isDecimal c = true := by
  intro c cMem
  obtain ⟨d, digit⟩ := denotes.exists_isDigit cMem
  rw [isDecimal, decimalDigit?_eq_some_iff.mpr digit]
  rfl

theorem Denotes.ofDigits_filterMap {n : Nat} {s : List Char} (denotes : Denotes 10 s n) :
    ofDigits 10 (s.filterMap decimalDigit?) = n := by
  obtain ⟨-, digits, run, value⟩ := denotes
  have read : s.filterMap decimalDigit? = digits := by
    clear value
    induction run with
    | nil => rfl
    | cons digit _ ih =>
        rw [List.filterMap_cons_some (decimalDigit?_eq_some_iff.mpr digit), ih]
  rw [read, ofDigits_eq, value]

theorem isBlank_of_isDecimal {c : Char} (digit : isDecimal c = true) : isBlank c = false := by
  obtain ⟨d, read⟩ := Option.isSome_iff_exists.mp digit
  obtain ⟨small, rfl⟩ := eq_digitChar_of_decimalDigit? read
  have none : ∀ d < 10, isBlank (Nat.digitChar d) = false := by decide
  exact none d small

theorem trimLeft_of_isDecimal {c : Char} (digit : isDecimal c = true) (s : List Char) :
    trimLeft (c :: s) = c :: s :=
  List.dropWhile_cons_of_neg (by rw [isBlank_of_isDecimal digit]; exact Bool.false_ne_true)

end Text

namespace Time

open ControlPlane.Text (padded)

namespace StampReader

/-! ## Numbers and marks -/

/-- Where the digits of a number have to stand. -/
def window (width : Option Nat) (s : List Char) : List Char :=
  match width with
  | none => s
  | some w => s.take w

theorem number_cons {c : Char} (digit : Text.isDecimal c = true) (width : Option Nat)
    (s : List Char) :
    number width (c :: s) =
      digits ((window width (c :: s)).takeWhile Text.isDecimal)
        ((c :: s).drop ((window width (c :: s)).takeWhile Text.isDecimal).length) := by
  simp only [number, digit, Bool.not_true, Bool.false_eq_true, if_false]
  rfl

/-- If the digits of a text where a number has to stand denote it, the number is read. -/
theorem number_append {width : Option Nat} {front rest : List Char} {n : Nat}
    (denotes : Text.Denotes 10 front n) (small : n ≤ numberLimit)
    (ends : (window width (front ++ rest)).takeWhile Text.isDecimal = front) :
    number width (front ++ rest) = .ok (n, rest) := by
  have value : digits front rest = .ok (n, rest) := by
    simp only [digits, denotes.ofDigits_filterMap, if_neg (Nat.not_lt.mpr small)]
  obtain ⟨c, others, rfl⟩ := List.exists_cons_of_ne_nil denotes.1
  have digit := denotes.isDecimal_of_mem c List.mem_cons_self
  rw [List.cons_append, number_cons digit, ← List.cons_append, ends, List.drop_left, value]

/-- A number that has the greatest length is read whatever follows. -/
theorem number_of_length {front : List Char} {n : Nat} (denotes : Text.Denotes 10 front n)
    (small : n ≤ numberLimit) (rest : List Char) :
    number (some front.length) (front ++ rest) = .ok (n, rest) := by
  apply number_append denotes small
  rw [window, List.take_left, List.takeWhile_eq_self_iff.mpr denotes.isDecimal_of_mem]

/-- The text goes on with something that is no digit, if it goes on. -/
def Delimited (rest : List Char) : Prop :=
  ∀ c ∈ rest.head?, Text.isDecimal c = false

theorem Delimited.takeWhile {rest : List Char} (delimited : Delimited rest) :
    rest.takeWhile Text.isDecimal = [] := by
  cases rest with
  | nil => rfl
  | cons c rest => exact List.takeWhile_cons_of_neg (by simp [delimited c rfl])

theorem Delimited.take {rest : List Char} (delimited : Delimited rest) (count : Nat) :
    Delimited (rest.take count) := by
  cases rest with
  | nil => simpa using delimited
  | cons c rest =>
      cases count with
      | zero => simp [Delimited]
      | succ count => exact delimited

/-- A number after which something else follows is read if it is short enough. -/
theorem number_of_delimited {width : Option Nat} {front rest : List Char} {n : Nat}
    (denotes : Text.Denotes 10 front n) (small : n ≤ numberLimit)
    (fits : ∀ w ∈ width, front.length ≤ w) (delimited : Delimited rest) :
    number width (front ++ rest) = .ok (n, rest) := by
  have digits := denotes.isDecimal_of_mem
  apply number_append denotes small
  cases width with
  | none => rw [window, List.takeWhile_append_of_pos digits, delimited.takeWhile, List.append_nil]
  | some w =>
      rw [window, List.take_append, List.take_of_length_le (fits w rfl),
        List.takeWhile_append_of_pos digits, (delimited.take _).takeWhile, List.append_nil]

/-- A padded number of two digits is read if it lies within the bounds. -/
theorem bounded_padded {low high n : Nat} (atLeast : low ≤ n) (atMost : n ≤ high)
    (short : high < 100) (rest : List Char) :
    bounded low high (padded 2 n ++ rest) = .ok (n, rest) := by
  have fits : n < 10 ^ 2 := Nat.lt_of_le_of_lt atMost short
  have denotes := Text.denotes_padded 2 n
  have read : number (some 2) (padded 2 n ++ rest) = .ok (n, rest) := by
    have whole := number_of_length denotes
      (Nat.le_trans (Nat.le_of_lt fits) (by decide)) rest
    rwa [Text.length_padded (by decide) fits] at whole
  have trimmed : Text.trimLeft (padded 2 n ++ rest) = padded 2 n ++ rest := by
    obtain ⟨c, others, split⟩ := List.exists_cons_of_ne_nil denotes.1
    rw [split, List.cons_append]
    apply Text.trimLeft_of_isDecimal
    exact denotes.isDecimal_of_mem c (by simp [split])
  simp only [bounded, trimmed, read, bind, Except.bind, atLeast, atMost, and_self, if_true]
  rfl

theorem mark_cons {c : Char} (notBlank : Text.isBlank c = false) (rest : List Char) :
    mark c (c :: rest) = .ok rest := by
  rw [mark, Text.trimLeft, List.dropWhile_cons_of_neg (by simp [notBlank])]
  exact if_pos rfl

/-! ## Dates -/

theorem delimited_dash (rest : List Char) : Delimited ('-' :: rest) := by
  simp [Delimited, Text.isDecimal, Text.decimalDigit?]

/-- A year without a sign has at most four digits. -/
theorem year_of_digit {c : Char} (digit : Text.isDecimal c = true) {s rest : List Char} {n : Nat}
    (read : number (some 4) (c :: s) = .ok (n, rest)) (small : n < 2147483648) :
    year (c :: s) = .ok (n, rest) := by
  have noMinus : c ≠ '-' := by
    rintro rfl
    exact absurd digit (by decide)
  have noPlus : c ≠ '+' := by
    rintro rfl
    exact absurd digit (by decide)
  have inRange : (-2147483648 : Int) ≤ n ∧ (n : Int) < 2147483648 := by omega
  simp only [year, Text.trimLeft_of_isDecimal digit]
  split
  · next same => exact absurd (List.cons.inj same).1 noMinus
  · next same => exact absurd (List.cons.inj same).1 noPlus
  · simp only [read, Except.map, bind, Except.bind, inRange, and_self, if_true]
    rfl

theorem year_minus {s rest : List Char} {n : Nat} (read : number none s = .ok (n, rest))
    (small : n ≤ 2147483648) : year ('-' :: s) = .ok (-n, rest) := by
  have trimmed : Text.trimLeft ('-' :: s) = '-' :: s := rfl
  have inRange : -2147483648 ≤ -(n : Int) ∧ -(n : Int) < 2147483648 := by omega
  simp only [year, trimmed, read, Except.map, bind, Except.bind, inRange, and_self, if_true]
  rfl

theorem year_plus {s rest : List Char} {n : Nat} (read : number none s = .ok (n, rest))
    (small : n < 2147483648) : year ('+' :: s) = .ok (n, rest) := by
  have trimmed : Text.trimLeft ('+' :: s) = '+' :: s := rfl
  have inRange : (-2147483648 : Int) ≤ n ∧ (n : Int) < 2147483648 := by omega
  simp only [year, trimmed, read, Except.map, bind, Except.bind, inRange, and_self, if_true]
  rfl

/-- A year is read if a dash follows. -/
theorem year_yearText {y : Int} (low : -262400 ≤ y) (high : y ≤ 262400) (rest : List Char) :
    year (yearText y ++ '-' :: rest) = .ok (y, '-' :: rest) := by
  have small : y.natAbs < 2147483648 := by omega
  have read : number none (padded 4 y.natAbs ++ '-' :: rest) = .ok (y.natAbs, '-' :: rest) :=
    number_of_delimited (Text.denotes_padded 4 _)
      (Nat.le_trans (Nat.le_of_lt small) (by decide)) nofun (delimited_dash rest)
  rw [yearText]
  split
  · next short =>
      obtain ⟨n, rfl⟩ := Int.eq_ofNat_of_zero_le short.1
      have fits : n < 10 ^ 4 := by omega
      have denotes := Text.denotes_padded 4 n
      have shortRead := number_of_length denotes
        (Nat.le_trans (Nat.le_of_lt fits) (by decide)) ('-' :: rest)
      rw [Text.length_padded (by decide) fits] at shortRead
      obtain ⟨c, others, split⟩ := List.exists_cons_of_ne_nil denotes.1
      have digit := denotes.isDecimal_of_mem c (by simp [split])
      rw [split, List.cons_append] at shortRead
      rw [Int.toNat_natCast, split, List.cons_append]
      exact year_of_digit digit shortRead (by omega)
  · split
    · next negative =>
        rw [List.cons_append, year_minus read (Nat.le_of_lt small)]
        congr 2
        omega
    · next positive =>
        rw [List.cons_append, year_plus read small]
        congr 2
        omega

/-- A date is read if there is such a day. -/
theorem date_dateText {d : Date} (valid : d.isValid = true) (low : -262400 ≤ d.year)
    (high : d.year ≤ 262400) (rest : List Char) :
    date (dateText d ++ 'T' :: rest) = .ok (d, 'T' :: rest) := by
  simp only [Date.isValid, Bool.and_eq_true, decide_eq_true_eq] at valid
  obtain ⟨⟨⟨monthLow, monthHigh⟩, dayLow⟩, dayHigh⟩ := valid
  have dayAtMost : d.day ≤ 31 := by
    refine Nat.le_trans dayHigh ?_
    rw [daysInMonth]
    repeat' split
    all_goals decide
  have yearRead := year_yearText low high
    (padded 2 d.month ++ '-' :: (padded 2 d.day ++ 'T' :: rest))
  have monthRead := bounded_padded monthLow monthHigh (by decide)
    ('-' :: (padded 2 d.day ++ 'T' :: rest))
  have dayRead := bounded_padded dayLow dayAtMost (by decide) ('T' :: rest)
  have dash (s : List Char) : mark '-' ('-' :: s) = .ok s := mark_cons (by decide) s
  simp only [date, dateText, List.append_assoc, List.cons_append, yearRead, dash, monthRead,
    dayRead, bind, Except.bind]
  rfl

/-! ## Times of day -/

/-- What may follow a time of day: something that continues no number. -/
def EndsTime (rest : List Char) : Prop :=
  Delimited rest ∧ rest.head? ≠ some '.'

theorem fraction_of_no_point {s : List Char} (noPoint : s.head? ≠ some '.') :
    fraction s = .ok (0, s) := by
  rw [fraction.eq_def]
  split
  · exact absurd rfl noPoint
  · rfl

/-- The digits after a point are read as the first ones of nine. -/
theorem fraction_padded {width value : Nat} (positive : 0 < width) (short : width ≤ 9)
    (fits : value < 10 ^ width) {rest : List Char} (delimited : Delimited rest) :
    fraction ('.' :: (padded width value ++ rest)) = .ok (value * 10 ^ (9 - width), rest) := by
  have length := Text.length_padded positive fits
  have small : value ≤ numberLimit := by
    have bound : 10 ^ width ≤ 10 ^ 9 := Nat.pow_le_pow_right (by decide) short
    rw [numberLimit]
    omega
  have read : number (some 9) (padded width value ++ rest) = .ok (value, rest) := by
    apply number_of_delimited (Text.denotes_padded width value) small _ delimited
    rintro w ⟨⟩
    rwa [length]
  have taken : (padded width value ++ rest).length - rest.length = width := by
    rw [List.length_append, length, Nat.add_sub_cancel]
  have left : rest.dropWhile Text.isDecimal = rest := by
    have split := List.takeWhile_append_dropWhile (p := Text.isDecimal) (l := rest)
    rwa [delimited.takeWhile, List.nil_append] at split
  simp only [fraction, read, bind, Except.bind, taken, left]
  rfl

theorem fraction_fractionText {nano : Nat} (small : nano < 1000000000) {rest : List Char}
    (ends : EndsTime rest) : fraction (fractionText nano ++ rest) = .ok (nano, rest) := by
  have padded {width value : Nat} (positive : 0 < width) (short : width ≤ 9)
      (fits : value < 10 ^ width) (whole : value * 10 ^ (9 - width) = nano) :
      fraction ('.' :: (Text.padded width value ++ rest)) = .ok (nano, rest) := by
    rw [fraction_padded positive short fits ends.1, whole]
  unfold fractionText
  split
  · next isZero =>
      rw [isZero]
      exact fraction_of_no_point ends.2
  split
  · exact padded (by decide) (by decide) (by omega) (by omega)
  split
  · exact padded (by decide) (by decide) (by omega) (by omega)
  · exact padded (by decide) (by decide) (by omega) (by omega)

/-- A time of day is read, the sixtieth second of a minute as a leap second. -/
theorem time_timeText {second nano : Nat} (inDay : second < 86400) (small : nano < 2000000000)
    (leap : 1000000000 ≤ nano → second % 60 = 59) {rest : List Char} (ends : EndsTime rest) :
    time (timeText second nano ++ rest) = .ok ((second, nano), rest) := by
  have fractionRead : fraction (fractionText (nano % 1000000000) ++ rest) =
      .ok (nano % 1000000000, rest) :=
    fraction_fractionText (Nat.mod_lt nano (by decide)) ends
  have colon (s : List Char) : mark ':' (':' :: s) = .ok s := mark_cons (by decide) s
  have hourRead := bounded_padded (Nat.zero_le (second / 3600)) (by omega) (by decide : 23 < 100)
  have minuteRead := bounded_padded (Nat.zero_le (second / 60 % 60)) (by omega)
    (by decide : 59 < 100)
  have secondRead := bounded_padded (Nat.zero_le (second % 60 + nano / 1000000000)) (by omega)
    (by decide : 60 < 100)
  have isLeap : (if second % 60 + nano / 1000000000 = 60 then 1 else 0) = nano / 1000000000 := by
    split <;> omega
  have inSeconds : second / 3600 * 3600 + second / 60 % 60 * 60 +
      (second % 60 + nano / 1000000000 - nano / 1000000000) = second := by
    omega
  have inNanos : nano % 1000000000 + nano / 1000000000 * 1000000000 = nano :=
    Nat.mod_add_div' nano 1000000000
  simp only [time, timeText, List.append_assoc, List.cons_append, hourRead, colon, minuteRead,
    secondRead, fractionRead, bind, Except.bind, isLeap, inSeconds, inNanos]
  rfl

/-! ## Instants -/

/-- The date of the day of an instant, with its time, is the instant. -/
theorem assemble_ofDays (i : Instant) :
    assemble (.ofDays i.day) i.second i.nano 0 = .ok i := by
  have inDay := i.second_lt
  have second : ((i.second : Int) - 0) / 86400 = 0 := by omega
  have rest : (((i.second : Int) - 0) % 86400).toNat = i.second := by omega
  have built : Instant.of? i.day i.second i.nano = some i := by
    rw [Instant.of?, dif_pos ⟨i.firstDay_le, i.le_lastDay, i.second_lt, i.nano_lt, i.leap⟩]
  simp only [assemble, Date.isValid_ofDays, Date.toDays_ofDays, i.firstDay_le, i.le_lastDay,
    second, rest, Int.add_zero, built]
  rfl

theorem endsTime_text (z : Zone) : EndsTime z.text := by
  cases z <;> simp [EndsTime, Delimited, Zone.text, Text.isDecimal, Text.decimalDigit?]

theorem zone_text (z : Zone) : zone z.text = .ok (0, []) := by
  cases z <;> rfl

/-- A written instant is read back, however universal time is marked. -/
theorem read_stamp (z : Zone) (i : Instant) : read (i.stamp z) = .ok i := by
  obtain ⟨low, high⟩ := Date.year_ofDays_bounds i.firstDay_le i.le_lastDay
  have dateRead := date_dateText (Date.isValid_ofDays i.day) low high
    (timeText i.second i.nano ++ z.text)
  have separated : separator ('T' :: (timeText i.second i.nano ++ z.text)) =
      .ok (timeText i.second i.nano ++ z.text) :=
    rfl
  have timeRead := time_timeText i.second_lt i.nano_lt i.leap (endsTime_text z)
  simp only [read, Instant.stamp, List.append_assoc, List.cons_append, dateRead, separated,
    timeRead, zone_text, bind, Except.bind, assemble_ofDays]
  rfl

end StampReader

/-- The text of an instant denotes it. -/
theorem Instant.ofText_text (i : Instant) : ofText i.text = .ok i := by
  rw [ofText, text, String.toList_ofList, StampReader.read_stamp]

end Time

end ControlPlane
