import ControlPlane.Proofs.Json.Reading
import ControlPlane.Proofs.Page.Address
import ControlPlane.Proofs.Text.Shortest
import ControlPlane.Wire.Page

/-!
# The shown form of an address

Among the spellings of an address one is canonical: `0x` and the shortest hexadecimal
numeral.  It is the one that is shown, so the shown forms of two texts are compared in
place of the addresses, and a text may be replaced by its shown form.
-/

namespace ControlPlane

namespace Address

/-- The canonical spelling of a number. -/
inductive Canonical : List Char → Nat → Prop
  | intro {digits : List Char} {n : Nat} (shortest : Text.IsShortest 16 digits n) :
      Canonical ('0' :: 'x' :: digits) n

/-- A number has one canonical spelling. -/
theorem canonical_iff {s : List Char} {n : Nat} :
    Canonical s n ↔ s = '0' :: 'x' :: Text.hex n := by
  have shortest {digits : List Char} : Text.IsShortest 16 digits n ↔ digits = Text.hex n :=
    Text.isShortest_iff (by decide) (by decide)
  constructor
  · rintro ⟨isShortest⟩
    rw [shortest.mp isShortest]
  · rintro rfl
    exact .intro (shortest.mpr rfl)

theorem Canonical.spelled {s : List Char} {n : Nat} (canonical : Canonical s n) : Spelled s n := by
  obtain ⟨shortest⟩ := canonical
  exact .hexadecimal shortest.denotes

/-- What is shown for an address is its canonical spelling. -/
theorem canonical_display_iff {a : Address} {s : String} :
    Canonical s.toList a.value.toNat ↔ s = a.display := by
  rw [canonical_iff, display, ← String.toList_inj, String.toList_ofList]

/-- An address is read back from what is shown for it. -/
theorem ofText_display (a : Address) : ofText a.display = .ok a :=
  ofText_eq_ok_iff.mpr (canonical_display_iff.mpr rfl).spelled

theorem display_inj {a b : Address} : a.display = b.display ↔ a = b := by
  refine ⟨fun same => ?_, congrArg display⟩
  have read := ofText_display a
  rw [same, ofText_display b] at read
  exact (Except.ok.inj read).symm

/-- A text denotes one number only. -/
theorem Spelled.unique {s : List Char} {m n : Nat} (first : Spelled s m) (second : Spelled s n) :
    m = n := by
  rw [← number?_eq_some_iff] at first second
  exact Option.some.inj (first.symm.trans second)

theorem ofText_of_spelled {s : String} {n : Nat} (spelled : Spelled s.toList n)
    (small : n < UInt64.size) : ofText s = .ok ⟨.ofNat n⟩ := by
  rw [ofText_eq_ok_iff, UInt64.toNat_ofNat_of_lt' small]
  exact spelled

/-- An address lies in its page. -/
theorem pageFrame_bounds (a : Address) :
    4096 * a.pageFrame.toNat ≤ a.value.toNat ∧
      a.value.toNat < 4096 * (a.pageFrame.toNat + 1) := by
  have frame : a.pageFrame.toNat = a.value.toNat / 4096 := UInt64.toNat_div a.value pageSize
  omega

end Address

/-- The JSON of an address is read as the text that is shown. -/
theorem Wire.text_addressValue (a : Address) :
    Json.Decoder.ofText .text (Wire.addressValue a).render = .ok a.display := by
  rw [addressValue, Json.Decoder.ofText_render (.text _)]
  rfl

namespace Address

/-- Every address is read back from what is shown for it, also from its JSON.  The texts that
are read are spellings, and whichever is read, the canonical one is shown, which is read as
the same address; and any directory tells the same of it as of the number, which lies in the
page.  So what is shown for two texts is the same just if they denote the same number. -/
theorem displays_are_canonical :
    (∀ a : Address, ofText a.display = .ok a ∧
      ∃ s, Json.Decoder.ofText .text (Wire.addressValue a).render = .ok s ∧ ofText s = .ok a) ∧
    (∀ s a, ofText s = .ok a → Spelled s.toList a.value.toNat) ∧
    (∀ s n, Spelled s.toList n → n < 2 ^ 64 →
      ∃ a, ofText s = .ok a ∧ (∀ t : String, Canonical t.toList n ↔ t = a.display) ∧
        (∃ again, ofText a.display = .ok again ∧ again.display = a.display) ∧
        (∀ pages : PageDirectory, pages a = pages ⟨.ofNat n⟩) ∧
        PageDirectory.unassigned a = ⟨⟨.ofNat n⟩, 0, 0, 0, 0⟩ ∧
        4096 * a.pageFrame.toNat ≤ n ∧ n < 4096 * (a.pageFrame.toNat + 1)) ∧
    (∀ s t a b, ofText s = .ok a → ofText t = .ok b →
      ∀ m n, Spelled s.toList m → Spelled t.toList n → (a.display = b.display ↔ m = n)) := by
  refine ⟨?back, fun s a => ofText_eq_ok_iff.mp, ?read, ?same⟩
  case back =>
    intro a
    exact ⟨ofText_display a, a.display, Wire.text_addressValue a, ofText_display a⟩
  case read =>
    intro s n spelled small
    have value : (Address.mk (.ofNat n)).value.toNat = n := UInt64.toNat_ofNat_of_lt' small
    have inPage := pageFrame_bounds ⟨.ofNat n⟩
    rw [value] at inPage
    refine ⟨⟨.ofNat n⟩, ofText_of_spelled spelled small, ?_, ⟨_, ofText_display _, rfl⟩,
      fun _ => rfl, rfl, inPage⟩
    intro t
    rw [← canonical_display_iff, value]
  case same =>
    rintro s t ⟨v⟩ ⟨w⟩ readV readW m n spelledM spelledN
    have valueV := (ofText_eq_ok_iff.mp readV).unique spelledM
    have valueW := (ofText_eq_ok_iff.mp readW).unique spelledN
    rw [display_inj, mk.injEq, ← UInt64.toNat_inj, valueV, valueW]

/-- The last address below `2 ^ 64` in two spellings, one of them with capital letters and
zeros in front. -/
theorem displays_are_canonical_of_last :
    Spelled "0x00fFfFfFfFfFfFfFfF".toList 18446744073709551615 ∧
    Spelled "18446744073709551615".toList 18446744073709551615 ∧
    ∃ a b, ofText "0x00fFfFfFfFfFfFfFfF" = .ok a ∧ ofText "18446744073709551615" = .ok b ∧
      a.display = "0xffffffffffffffff" ∧ b.display = a.display := by
  have hexadecimal : Spelled "0x00fFfFfFfFfFfFfFfF".toList 18446744073709551615 :=
    number?_eq_some_iff.mp (by decide)
  have decimal : Spelled "18446744073709551615".toList 18446744073709551615 :=
    number?_eq_some_iff.mp (by decide)
  have canonical : Canonical "0xffffffffffffffff".toList 18446744073709551615 :=
    canonical_iff.mpr (by decide)
  obtain ⟨-, -, read, same⟩ := displays_are_canonical
  obtain ⟨a, readA, shown, -⟩ := read _ _ hexadecimal (by decide)
  obtain ⟨b, readB, -⟩ := read _ _ decimal (by decide)
  exact ⟨hexadecimal, decimal, a, b, readA, readB, ((shown _).mp canonical).symm,
    (same _ _ b a readB readA _ _ decimal hexadecimal).mpr rfl⟩

end Address

end ControlPlane
