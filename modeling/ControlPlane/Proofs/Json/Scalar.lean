import ControlPlane.Proofs.Json.Written
import ControlPlane.Proofs.Result
import ControlPlane.Proofs.Text.Positional

/-!
# What the simple decoders take

Each of these decoders takes exactly the values of one form: unsigned integer
literals below a limit, texts, the two forms of a name, `null` besides what another
decoder takes, and arrays of what another decoder takes.
-/

namespace ControlPlane.Json

open ControlPlane.Number (Numeral)

/-! ## Numbers -/

/-- The unsigned integer literal of a number: digits without a sign, a point or an
exponent. -/
def Draft.IsLiteral (d : Draft) (n : Nat) : Prop :=
  ∃ digits, d = .number ⟨false, digits, none, none⟩ ∧ Nat.ofDigits 10 digits.reverse = n

theorem Value.isLiteral_natural (n : Nat) : (natural n).draft.IsLiteral n := by
  refine ⟨(Number.Numeral.ofNat n).whole, rfl, ?_⟩
  rw [← Text.ofDigits_eq]
  exact Number.Numeral.ofDigits_whole_ofNat n

/-- A numeral that is read as a double denotes no natural number. -/
theorem Number.real?_ne_natural (n : Numeral) (value : Nat) :
    Number.real? n ≠ some (.natural value) := by
  rw [Number.real?]
  cases Number.magnitude? n <;> simp

theorem Number.ofNumeral?_eq_natural_iff {n : Numeral} {value : Nat} :
    Number.ofNumeral? n = some (.natural value) ↔
      (Draft.number n).IsLiteral value ∧ value < UInt64.size := by
  obtain ⟨negative, whole, fraction, exponent⟩ := n
  rw [Number.ofNumeral?]
  split
  · next plain =>
      obtain ⟨rfl, rfl⟩ := plain
      rw [show whole.foldl (fun value digit => value * 10 + digit) 0 =
        Nat.ofDigits 10 whole.reverse from Text.ofDigits_eq 10 whole]
      cases negative with
      | false =>
          by_cases small : Nat.ofDigits 10 whole.reverse < UInt64.size
          · simp only [Bool.not_false, small, and_self, if_true, Option.some.injEq,
              Number.natural.injEq]
            constructor
            · rintro rfl
              exact ⟨⟨whole, rfl, rfl⟩, small⟩
            · rintro ⟨⟨digits, same, rfl⟩, -⟩
              cases same
              rfl
          · simp only [Bool.not_false, small, and_false, if_false, Bool.false_eq_true,
              false_and, Number.real?_ne_natural, false_iff, not_and]
            rintro ⟨digits, same, rfl⟩
            cases same
            exact small
      | true =>
          have noLiteral : ¬ (Draft.number ⟨true, whole, none, none⟩).IsLiteral value := by
            rintro ⟨digits, same, -⟩
            cases same
          simp only [Bool.not_true, Bool.false_eq_true, false_and, if_false, noLiteral,
            iff_false]
          split
          · simp
          · exact Number.real?_ne_natural _ _
  · next noInteger =>
      refine iff_of_false (Number.real?_ne_natural _ _) ?_
      rintro ⟨⟨digits, same, -⟩, -⟩
      cases same
      exact noInteger ⟨rfl, rfl⟩

namespace Decoder

/-- Exactly the unsigned integer literals below the limit are decoded. -/
theorem natural_eq_ok_iff {limit : Nat} (small : limit ≤ UInt64.size) {expected : String}
    {depth : Nat} {d : Draft} {n : Nat} :
    natural limit expected depth d = .ok n ↔ d.IsLiteral n ∧ n < limit := by
  rw [natural.eq_def]
  split
  · next numeral =>
      have natural {value : Nat} : Number.ofNumeral? numeral = some (.natural value) ↔ _ :=
        Number.ofNumeral?_eq_natural_iff
      constructor
      · intro read
        split at read
        · cases read
        · next value denoted =>
            split at read
            · next inRange =>
                cases read
                exact ⟨(natural.mp denoted).1, inRange⟩
            · cases read
        · cases read
        · cases read
      · rintro ⟨literal, inRange⟩
        rw [natural.mpr ⟨literal, Nat.lt_of_lt_of_le inRange small⟩]
        exact if_pos inRange
  · next other noNumber =>
      refine iff_of_false (fun read => by cases read) ?_
      rintro ⟨⟨digits, rfl, -⟩, -⟩
      exact noNumber _ rfl

theorem uint16_eq_ok_iff {depth : Nat} {d : Draft} {n : UInt16} :
    uint16 depth d = .ok n ↔ d.IsLiteral n.toNat := by
  rw [uint16, map_eq_ok_iff]
  simp only [natural_eq_ok_iff (by decide : UInt16.size ≤ UInt64.size)]
  constructor
  · rintro ⟨value, ⟨literal, inRange⟩, rfl⟩
    rwa [UInt16.toNat_ofNat_of_lt' inRange]
  · intro literal
    exact ⟨n.toNat, ⟨literal, n.toNat_lt⟩, UInt16.ofNat_toNat⟩

theorem uint32_eq_ok_iff {depth : Nat} {d : Draft} {n : UInt32} :
    uint32 depth d = .ok n ↔ d.IsLiteral n.toNat := by
  rw [uint32, map_eq_ok_iff]
  simp only [natural_eq_ok_iff (by decide : UInt32.size ≤ UInt64.size)]
  constructor
  · rintro ⟨value, ⟨literal, inRange⟩, rfl⟩
    rwa [UInt32.toNat_ofNat_of_lt' inRange]
  · intro literal
    exact ⟨n.toNat, ⟨literal, n.toNat_lt⟩, UInt32.ofNat_toNat⟩

theorem uint64_eq_ok_iff {depth : Nat} {d : Draft} {n : UInt64} :
    uint64 depth d = .ok n ↔ d.IsLiteral n.toNat := by
  rw [uint64, map_eq_ok_iff]
  simp only [natural_eq_ok_iff (Nat.le_refl UInt64.size)]
  constructor
  · rintro ⟨value, ⟨literal, inRange⟩, rfl⟩
    rwa [UInt64.toNat_ofNat_of_lt' inRange]
  · intro literal
    exact ⟨n.toNat, ⟨literal, n.toNat_lt⟩, UInt64.ofNat_toNat⟩

/-! ## Texts and names -/

theorem textAs_eq_ok_iff {expected : String} {read : String → Except Refusal α} {depth : Nat}
    {d : Draft} {a : α} :
    textAs expected read depth d = .ok a ↔ ∃ s, d = .text (some s) ∧ read s = .ok a := by
  rw [textAs.eq_def]
  split
  · next s => simp
  · next other noText =>
      refine iff_of_false (fun decoded => ?_) ?_
      · cases decoded
      · rintro ⟨s, rfl, -⟩
        exact noText s rfl

theorem text_eq_ok_iff {depth : Nat} {d : Draft} {s : String} :
    text depth d = .ok s ↔ d = .text (some s) := by
  rw [text, textAs_eq_ok_iff]
  simp

/-- Only a text names an alternative. -/
theorem name_eq_ok_iff {choices : List (String × α)} {depth : Nat} {d : Draft} {a : α} :
    name choices depth d = .ok a ↔
      ∃ s, d = .text (some s) ∧ choices.lookup s = some a := by
  rw [name, textAs_eq_ok_iff]
  simp only [chosen]
  refine exists_congr fun s => and_congr_right fun _ => ?_
  cases choices.lookup s <;> simp

/-- Of objects only one with a single name and `null` as its value is an alternative. -/
theorem choice_object_eq_ok_iff {choices : List (String × α)} {depth : Nat}
    {key : Option String} {d : Draft} {rest : List (Option String × Draft)} {tail : Tail} {a : α} :
    choice choices depth (.object ((key, d) :: rest) tail) = .ok a ↔
      1 < depth ∧ d = .null ∧ rest = [] ∧ tail = .closed ∧
        ∃ s, key = some s ∧ choices.lookup s = some a := by
  by_cases deep : 1 < depth
  · have named {a : α} : name choices (depth - 1) (.text key) = .ok a ↔ _ := name_eq_ok_iff
    cases read : name choices (depth - 1) (.text key) with
    | error refusal =>
        have unnamed : ¬ ∃ s, key = some s ∧ choices.lookup s = some a := by
          rintro ⟨s, rfl, found⟩
          have accepted := named.mpr ⟨s, rfl, found⟩
          rw [read] at accepted
          cases accepted
        simp [choice, enter_of_deep deep, read, unnamed, bind, Except.bind]
    | ok b =>
        obtain ⟨s, same, found⟩ := named.mp read
        cases same
        simp only [choice, enter_of_deep deep, read, bind, Except.bind]
        split
        · by_cases whole : rest = [] ∧ tail = .closed
          · simp [whole, deep, found, pure, Except.pure]
          · rw [not_and_or] at whole
            rcases whole with more | unclosed
            · simp [more]
            · simp [unclosed]
        · next noNull =>
            have present : d ≠ .null := noNull
            simp [present]
  · simp [choice, enter, Nat.not_lt.mp deep, deep, bind, Except.bind]

/-- An alternative is written as its name, or as an object with the name as its only
member and `null` as the value. -/
theorem choice_eq_ok_iff {choices : List (String × α)} {depth : Nat} {d : Draft} {a : α} :
    choice choices depth d = .ok a ↔
      ∃ s, choices.lookup s = some a ∧
        (d = .text (some s) ∨ 1 < depth ∧ d = .object [(some s, .null)] .closed) := by
  cases d with
  | text content =>
      cases content with
      | none => simp [choice]
      | some s => simp [choice, name_eq_ok_iff, and_comm]
  | object members tail =>
      cases members with
      | nil =>
          have refused : choice choices depth (.object [] tail) ≠ .ok a := by
            intro decoded
            cases tail with
            | bareKey key =>
                simp only [choice, bind, Except.bind] at decoded
                split at decoded
                · cases decoded
                · split at decoded <;> cases decoded
            | stray token =>
                simp only [choice, bind, Except.bind] at decoded
                split at decoded <;> cases decoded
            | closed => cases decoded
            | broken => cases decoded
          simp [refused]
      | cons member rest =>
          obtain ⟨key, d⟩ := member
          rw [choice_object_eq_ok_iff]
          constructor
          · rintro ⟨deep, rfl, rfl, rfl, s, rfl, found⟩
            exact ⟨s, found, .inr ⟨deep, rfl⟩⟩
          · rintro ⟨s, found, isText | ⟨deep, same⟩⟩
            · cases isText
            · cases same
              exact ⟨deep, rfl, rfl, rfl, s, rfl, found⟩
  | _ => simp [choice]

/-! ## Values that may be `null` -/

theorem nullable_of_present {decode : Decoder α} {depth : Nat} {d : Draft}
    (present : d ≠ .null) : nullable decode depth d = (decode depth d).map some := by
  rw [nullable]
  exact present

theorem nullable_eq_ok_iff {decode : Decoder α} {depth : Nat} {d : Draft} {o : Option α} :
    nullable decode depth d = .ok o ↔
      (d = .null ∧ o = none) ∨ d ≠ .null ∧ ∃ a, decode depth d = .ok a ∧ o = some a := by
  by_cases isNull : d = .null
  · subst isNull
    simp [nullable, eq_comm]
  · rw [nullable_of_present isNull, map_eq_ok_iff]
    simp [isNull, eq_comm (b := o)]

/-! ## Sequences -/

theorem items_eq_ok_iff {decode : Decoder α} {depth : Nat} {ds : List Draft} {as : List α} :
    items decode depth ds = .ok as ↔ List.Forall₂ (fun d a => decode depth d = .ok a) ds as := by
  induction ds generalizing as with
  | nil => simp [items, eq_comm]
  | cons d ds ih =>
      rw [List.forall₂_cons_left_iff]
      cases first : decode depth d with
      | error refusal => simp [items, first, bind, Except.bind]
      | ok a =>
          cases rest : items decode depth ds with
          | error refusal =>
              simp only [rest, reduceCtorEq, false_iff] at ih
              simp [items, first, rest, ih, bind, Except.bind]
          | ok others =>
              simp [items, first, rest, ← ih, bind, Except.bind, pure, Except.pure, eq_comm]

/-- A sequence is an array whose items are all decoded. -/
theorem sequence_eq_ok_iff {decode : Decoder α} {depth : Nat} (deep : 1 < depth) {d : Draft}
    {as : List α} :
    sequence decode depth d = .ok as ↔
      ∃ ds, d = .array ds true ∧ List.Forall₂ (fun d a => decode (depth - 1) d = .ok a) ds as := by
  cases d with
  | array ds closed =>
      simp only [sequence, enter_of_deep deep, ← items_eq_ok_iff, bind, Except.bind]
      cases read : items decode (depth - 1) ds <;> cases closed <;>
        simp [read, pure, Except.pure]
  | _ => simp [sequence]

end Decoder

end ControlPlane.Json
