import ControlPlane.Page.Directory
import ControlPlane.Proofs.Text.Positional

/-!
# Which texts are addresses

A text is read as an address exactly if it is spelled as one: in hexadecimal after
`0x` or in decimal, with any number of leading zeros, and with a value of at most 64
bits.  Every other text is refused with an error that quotes it.
-/

namespace ControlPlane.Address

/-- The spellings of a number: hexadecimal digits after `0x`, or decimal digits. -/
inductive Spelled : List Char → Nat → Prop
  | hexadecimal {digits : List Char} {n : Nat} (denotes : Text.Denotes 16 digits n) :
      Spelled ('0' :: 'x' :: digits) n
  | decimal {digits : List Char} {n : Nat} (denotes : Text.Denotes 10 digits n) :
      Spelled digits n

/-- What follows a leading `0x` is never read as part of a decimal number. -/
theorem not_denotes_hexPrefix (digits : List Char) (n : Nat) :
    ¬ Text.Denotes 10 ('0' :: 'x' :: digits) n := by
  intro denotes
  obtain ⟨d, isDigit⟩ := denotes.exists_isDigit (List.mem_cons_of_mem '0' List.mem_cons_self)
  have read := Text.decimalDigit?_eq_some_iff.mpr isDigit
  exact absurd read (by simp [Text.decimalDigit?])

theorem number?_eq_some_iff {s : List Char} {n : Nat} : number? s = some n ↔ Spelled s n := by
  unfold number?
  split
  · next digits =>
      rw [Text.hexValue?_eq_some_iff]
      constructor
      · exact .hexadecimal
      · intro spelled
        cases spelled with
        | hexadecimal denotes => exact denotes
        | decimal denotes => exact absurd denotes (not_denotes_hexPrefix digits n)
  · next digits noPrefix =>
      rw [Text.decimalValue?_eq_some_iff]
      constructor
      · exact .decimal
      · intro spelled
        cases spelled with
        | hexadecimal => exact (noPrefix _ rfl).elim
        | decimal denotes => exact denotes

/-- A text is read as the address of a number exactly if it spells the number and the
number has at most 64 bits. -/
theorem ofText_eq_ok_iff {s : String} {a : Address} :
    ofText s = .ok a ↔ Spelled s.toList a.value.toNat := by
  rw [ofText, ← number?_eq_some_iff]
  cases number? s.toList with
  | none => simp
  | some n =>
      simp only [Option.some.injEq]
      split
      · next small =>
          have back : (UInt64.ofNat n).toNat = n := UInt64.toNat_ofNat_of_lt' small
          constructor
          · rintro ⟨⟩
            exact back.symm
          · rintro rfl
            rw [UInt64.ofNat_toNat]
      · next large =>
          constructor
          · rintro ⟨⟩
          · rintro rfl
            exact absurd a.value.toNat_lt large

theorem ofText_eq_malformed {s : String} (refused : ∀ a, ofText s ≠ .ok a) :
    ofText s = .error (.malformedAddress s) := by
  cases read : number? s.toList with
  | none => simp only [ofText, read]
  | some n =>
      by_cases small : n < UInt64.size
      · refine absurd ?_ (refused ⟨.ofNat n⟩)
        simp only [ofText, read, if_pos small]
      · simp only [ofText, read, if_neg small]

/-- A text is read as the address `v` exactly if it spells `v`, in hexadecimal after `0x`
or in decimal, and `v` is below `2 ^ 64`; exactly the texts that spell no such number are
refused, with an error about an argument that quotes them. -/
theorem spelled_texts_are_addresses (s : String) :
    (∀ v : Nat, (∃ a, ofText s = .ok a ∧ a.value.toNat = v) ↔
      Spelled s.toList v ∧ v < 2 ^ 64) ∧
    ((∃ e, ofText s = .error e ∧ e.kind = .invalidArgument ∧
        e.message = "Invalid argument: Invalid GPA format: " ++ Text.quote s) ↔
      ¬ ∃ v < 2 ^ 64, Spelled s.toList v) := by
  have reads : ∀ v : Nat, (∃ a, ofText s = .ok a ∧ a.value.toNat = v) ↔
      Spelled s.toList v ∧ v < 2 ^ 64 := by
    intro v
    constructor
    · rintro ⟨a, read, rfl⟩
      exact ⟨ofText_eq_ok_iff.mp read, a.value.toNat_lt⟩
    · rintro ⟨spelled, small⟩
      have back : (UInt64.ofNat v).toNat = v := UInt64.toNat_ofNat_of_lt' small
      exact ⟨⟨.ofNat v⟩, ofText_eq_ok_iff.mpr (by rwa [back]), back⟩
  refine ⟨reads, ?_, ?_⟩
  · rintro ⟨e, refused, -, -⟩ ⟨v, small, spelled⟩
    obtain ⟨a, read, -⟩ := (reads v).mpr ⟨spelled, small⟩
    rw [refused] at read
    cases read
  · intro unspelled
    have refused : ∀ a, ofText s ≠ .ok a := by
      intro a read
      exact unspelled ⟨a.value.toNat, a.value.toNat_lt, ofText_eq_ok_iff.mp read⟩
    exact ⟨.malformedAddress s, ofText_eq_malformed refused, rfl, rfl⟩

example : ofText "0x000fF" = ofText "00255" := by decide

example : ofText "0X1" = .error (.malformedAddress "0X1") := by decide

end ControlPlane.Address
