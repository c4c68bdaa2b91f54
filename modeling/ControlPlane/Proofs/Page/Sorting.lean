import ControlPlane.Proofs.Page.Canonical
import ControlPlane.Proofs.Result
import Mathlib.Data.List.Sort

/-!
# Sorted addresses

Sorting brings a list of texts into a normal form: the canonical spellings of the numbers
that they spell, in the order of the numbers, each one once.  The normal form depends on
which numbers are spelled and on nothing else, so neither the order of the texts, nor their
spelling, nor repetitions count.  If a text is no address, the first one of this kind is
the error.
-/

namespace ControlPlane.Address

/-! ## Lists of addresses -/

/-- The order of addresses is the order of their numbers. -/
def Precedes (a b : Address) : Prop :=
  a.value < b.value

theorem mem_insert {a b : Address} {as : List Address} :
    b ∈ insert a as ↔ b = a ∨ b ∈ as := by
  induction as with
  | nil => simp [insert]
  | cons first rest ih =>
      rw [insert]
      split
      · simp
      split
      · next same => simp [same]
      · simp only [List.mem_cons, ih]
        exact or_left_comm

/-- An address finds its place in a list that ascends, or is there. -/
theorem pairwise_insert (a : Address) {as : List Address} (ascending : as.Pairwise Precedes) :
    (insert a as).Pairwise Precedes := by
  induction as with
  | nil => exact List.pairwise_singleton Precedes a
  | cons first rest ih =>
      obtain ⟨firstPrecedes, restAscending⟩ := List.pairwise_cons.mp ascending
      rw [insert]
      split
      · next precedes =>
          apply List.Pairwise.cons _ ascending
          intro b bMem
          rcases List.mem_cons.mp bMem with rfl | bMem
          · exact precedes
          · exact UInt64.lt_trans precedes (firstPrecedes b bMem)
      split
      · exact ascending
      · next notBefore notSame =>
          apply List.Pairwise.cons _ (ih restAscending)
          intro b bMem
          rcases mem_insert.mp bMem with rfl | bMem
          · have different : first.value ≠ b.value := by
              intro same
              exact notSame (congrArg mk same.symm)
            exact UInt64.lt_of_le_of_ne (UInt64.not_lt.mp notBefore) different
          · exact firstPrecedes b bMem

theorem mem_sort {a : Address} {as : List Address} : a ∈ sort as ↔ a ∈ as := by
  induction as with
  | nil => rfl
  | cons first rest ih =>
      change a ∈ insert first (sort rest) ↔ _
      rw [mem_insert, ih, List.mem_cons]

theorem pairwise_sort (as : List Address) : (sort as).Pairwise Precedes := by
  induction as with
  | nil => exact .nil
  | cons first rest ih => exact pairwise_insert first ih

/-! ## Texts that spell numbers -/

/-- A text that spells a number of at most 64 bits. -/
def IsAccepted (s : String) : Prop :=
  ∃ n < 2 ^ 64, Spelled s.toList n

/-- Two spellings of one number. -/
def SameNumber (s t : String) : Prop :=
  ∃ n, Spelled s.toList n ∧ Spelled t.toList n

/-- The numbers that a list of texts spells. -/
def Lists (texts : List String) (n : Nat) : Prop :=
  ∃ s ∈ texts, Spelled s.toList n

theorem isAccepted_iff {s : String} : IsAccepted s ↔ ∃ a, ofText s = .ok a := by
  constructor
  · rintro ⟨n, small, spelled⟩
    exact ⟨_, ofText_of_spelled spelled small⟩
  · rintro ⟨a, read⟩
    exact ⟨a.value.toNat, a.value.toNat_lt, ofText_eq_ok_iff.mp read⟩

theorem ofText_eq_error_iff {s : String} {e : Error} :
    ofText s = .error e ↔ ¬IsAccepted s ∧ e = .malformedAddress s := by
  rw [isAccepted_iff]
  constructor
  · intro refused
    have unread : ∀ a, ofText s ≠ .ok a := by
      intro a read
      rw [refused] at read
      cases read
    rw [ofText_eq_malformed unread] at refused
    exact ⟨fun ⟨a, read⟩ => unread a read, (Except.error.inj refused).symm⟩
  · rintro ⟨unread, rfl⟩
    exact ofText_eq_malformed fun a read => unread ⟨a, read⟩

theorem IsAccepted.of_sameNumber {s t : String} (accepted : IsAccepted s) (same : SameNumber s t) :
    IsAccepted t := by
  obtain ⟨n, small, spelled⟩ := accepted
  obtain ⟨m, first, second⟩ := same
  obtain rfl := first.unique spelled
  exact ⟨m, small, second⟩

theorem SameNumber.spelled_iff {s t : String} (same : SameNumber s t) {n : Nat} :
    Spelled s.toList n ↔ Spelled t.toList n := by
  obtain ⟨m, first, second⟩ := same
  constructor
  · intro spelled
    rwa [spelled.unique first]
  · intro spelled
    rwa [spelled.unique second]

/-! ## The normal form -/

/-- The numbers that the texts spell, in ascending order and each one once, in their canonical
spellings. -/
def Normalises (texts shown : List String) : Prop :=
  ∃ numbers : List Nat, List.Forall₂ (fun t n => Canonical t.toList n) shown numbers ∧
    numbers.Pairwise (· < ·) ∧ ∀ n, n ∈ numbers ↔ Lists texts n

/-- The normal form depends on the numbers that are spelled. -/
theorem Normalises.of_lists {texts others shown : List String} (normal : Normalises texts shown)
    (same : ∀ n, Lists others n ↔ Lists texts n) : Normalises others shown := by
  obtain ⟨numbers, canonical, ascending, listed⟩ := normal
  exact ⟨numbers, canonical, ascending, fun n => (listed n).trans (same n).symm⟩

/-- There is one normal form. -/
theorem Normalises.unique {texts shown again : List String} (first : Normalises texts shown)
    (second : Normalises texts again) : shown = again := by
  have shownOf {shown : List String} {numbers : List Nat}
      (canonical : List.Forall₂ (fun t n => Canonical t.toList n) shown numbers) :
      shown.map String.toList = numbers.map fun n => '0' :: 'x' :: Text.hex n := by
    induction canonical with
    | nil => rfl
    | cons head _ ih => rw [List.map_cons, List.map_cons, ih, canonical_iff.mp head]
  obtain ⟨numbers, canonical, ascending, listed⟩ := first
  obtain ⟨others, canonicalOthers, ascendingOthers, listedOthers⟩ := second
  have same : numbers = others :=
    ascending.eq_of_mem_iff ascendingOthers fun n => (listed n).trans (listedOthers n).symm
  apply List.map_injective_iff.mpr fun _ _ => String.toList_injective
  rw [shownOf canonical, shownOf canonicalOthers, same]

/-- A normal form is its own normal form. -/
theorem Normalises.self {texts shown : List String} (normal : Normalises texts shown) :
    Normalises shown shown := by
  obtain ⟨numbers, canonical, ascending, -⟩ := normal
  refine ⟨numbers, canonical, ascending, ?_⟩
  clear ascending
  intro n
  induction canonical with
  | nil => simp [Lists]
  | @cons t m rest others head _ ih =>
      have spelled : Spelled t.toList n ↔ n = m :=
        ⟨fun other => other.unique head.spelled, fun isHead => isHead ▸ head.spelled⟩
      simp only [Lists] at ih
      simp only [Lists, List.mem_cons, exists_eq_or_imp, spelled, ih]

/-- The numbers of the addresses that are read are those that the texts spell. -/
theorem lists_iff_of_read {texts : List String} {as : List Address}
    (read : List.Forall₂ (fun s a => ofText s = .ok a) texts as) {n : Nat} :
    Lists texts n ↔ ∃ a ∈ as, a.value.toNat = n := by
  induction read with
  | nil => simp [Lists]
  | @cons s a texts as head _ ih =>
      have spelled := ofText_eq_ok_iff.mp head
      have first : Spelled s.toList n ↔ a.value.toNat = n :=
        ⟨spelled.unique, fun isFirst => isFirst ▸ spelled⟩
      simp only [Lists] at ih
      simp only [Lists, List.mem_cons, exists_eq_or_imp, first, ih]

/-- What is shown for the sorted addresses is the normal form of the texts that they were read
from. -/
theorem normalises_map_display_sort {texts : List String} {as : List Address}
    (read : List.Forall₂ (fun s a => ofText s = .ok a) texts as) :
    Normalises texts ((sort as).map display) := by
  refine ⟨(sort as).map (·.value.toNat), ?canonical, ?ascending, ?listed⟩
  case canonical =>
    rw [List.forall₂_map_left_iff, List.forall₂_map_right_iff, List.forall₂_same]
    exact fun a _ => canonical_display_iff.mpr rfl
  case ascending =>
    rw [List.pairwise_map]
    exact (pairwise_sort as).imp UInt64.lt_iff_toNat_lt.mp
  case listed =>
    intro n
    rw [lists_iff_of_read read, List.mem_map]
    simp only [mem_sort]

/-- Texts that are addresses are sorted into their normal form. -/
theorem exists_sortTexts {texts : List String} (accepted : ∀ s ∈ texts, IsAccepted s) :
    ∃ as : List Address,
      sortTexts texts = .ok (as.map display) ∧ Normalises texts (as.map display) := by
  obtain ⟨as, read⟩ : ∃ as, texts.mapM ofText = .ok as :=
    exists_mapM_eq_ok_iff.mpr fun s sMem => isAccepted_iff.mp (accepted s sMem)
  refine ⟨sort as, ?_, normalises_map_display_sort (mapM_eq_ok_iff.mp read)⟩
  rw [sortTexts, read]
  rfl

/-- Sorting fails with the error of the first text that is no address. -/
theorem sortTexts_eq_error_iff {texts : List String} {e : Error} :
    sortTexts texts = .error e ↔
      ∃ before s after, texts = before ++ s :: after ∧ (∀ t ∈ before, IsAccepted t) ∧
        ofText s = .error e := by
  rw [sortTexts, bind_eq_error_iff, mapM_eq_error_iff]
  simp [isAccepted_iff, pure, Except.pure]

/-- Texts that are sorted are addresses. -/
theorem isAccepted_of_sortTexts {texts shown : List String} (sorted : sortTexts texts = .ok shown) :
    ∀ s ∈ texts, IsAccepted s := by
  obtain ⟨as, read, -⟩ := bind_eq_ok_iff.mp sorted
  intro s sMem
  exact isAccepted_iff.mpr (exists_mapM_eq_ok_iff.mp ⟨as, read⟩ s sMem)

/-- Texts that spell the same numbers are sorted into the same. -/
theorem sortTexts_of_lists {texts others shown : List String} (normal : Normalises texts shown)
    (accepted : ∀ t ∈ others, IsAccepted t) (same : ∀ n, Lists others n ↔ Lists texts n) :
    sortTexts others = .ok shown := by
  obtain ⟨as, sorted, normalAgain⟩ := exists_sortTexts accepted
  rw [sorted, (normal.of_lists same).unique normalAgain]

/-- Texts that are respelled one by one spell the same numbers. -/
theorem lists_iff_of_sameNumber {texts others : List String}
    (respelled : List.Forall₂ SameNumber texts others) {n : Nat} :
    Lists others n ↔ Lists texts n := by
  induction respelled with
  | nil => rfl
  | cons head _ ih =>
      simp only [Lists] at ih
      simp only [Lists, List.mem_cons, exists_eq_or_imp, head.spelled_iff, ih]

theorem isAccepted_of_sameNumber {texts others : List String}
    (respelled : List.Forall₂ SameNumber texts others) (accepted : ∀ s ∈ texts, IsAccepted s) :
    ∀ t ∈ others, IsAccepted t := by
  induction respelled with
  | nil => exact accepted
  | cons head _ ih =>
      rw [List.forall_mem_cons] at accepted ⊢
      exact ⟨accepted.1.of_sameNumber head, ih accepted.2⟩

/-- If a text is no address, the first one of this kind is the error.  Texts that are addresses
are sorted into their normal form, which is not changed by sorting it again.  The result is the
same for the texts in any other order, for other spellings of the same addresses, and for texts
that are repeated or are no longer repeated. -/
theorem sorting_normalises (texts : List String) :
    ((∃ s ∈ texts, ¬IsAccepted s) →
      ∃ before s after, texts = before ++ s :: after ∧ (∀ t ∈ before, IsAccepted t) ∧
        ¬IsAccepted s ∧ ∃ e, ofText s = .error e ∧ sortTexts texts = .error e) ∧
    ((∀ s ∈ texts, IsAccepted s) →
      ∃ shown, sortTexts texts = .ok shown ∧ Normalises texts shown ∧
        sortTexts shown = .ok shown ∧
        (∀ others, texts.Perm others → sortTexts others = .ok shown) ∧
        (∀ others, List.Forall₂ SameNumber texts others → sortTexts others = .ok shown) ∧
        ∀ others, (∀ s, s ∈ others ↔ s ∈ texts) → sortTexts others = .ok shown) := by
  constructor
  · rintro ⟨bad, badMem, unread⟩
    cases sorted : sortTexts texts with
    | ok shown => exact absurd (isAccepted_of_sortTexts sorted bad badMem) unread
    | error e =>
        obtain ⟨before, s, after, split, accepted, refused⟩ := sortTexts_eq_error_iff.mp sorted
        exact ⟨before, s, after, split, accepted, (ofText_eq_error_iff.mp refused).1, e, refused,
          rfl⟩
  · intro accepted
    obtain ⟨as, sorted, normal⟩ := exists_sortTexts accepted
    have sortsSame (others : List String) (same : ∀ s, s ∈ others ↔ s ∈ texts) :
        sortTexts others = .ok (as.map display) := by
      apply sortTexts_of_lists normal
      · exact fun t tMem => accepted t ((same t).mp tMem)
      · simp only [Lists, same, implies_true]
    refine ⟨as.map display, sorted, normal, ?again, ?reordered, ?respelled, sortsSame⟩
    case again =>
      apply sortTexts_of_lists normal.self _ fun n => Iff.rfl
      intro t tMem
      obtain ⟨a, -, rfl⟩ := List.mem_map.mp tMem
      exact isAccepted_iff.mpr ⟨a, ofText_display a⟩
    case reordered => exact fun others reordered => sortsSame others fun s => reordered.mem_iff.symm
    case respelled =>
      intro others respelled
      exact sortTexts_of_lists normal (isAccepted_of_sameNumber respelled accepted)
        fun n => lists_iff_of_sameNumber respelled

/-- Sixteen comes after nine, although its text comes before.  Both are there twice, and other
spellings of them lead to the same; a text with a large `X` is refused. -/
theorem sorting_normalises_sixteen :
    let texts := ["0x10", "9", "016", "0x9", "0x00A"]
    (∀ s ∈ texts, IsAccepted s) ∧ "0x10" < "0x9" ∧ Normalises texts ["0x9", "0xa", "0x10"] ∧
      List.Forall₂ SameNumber texts ["16", "0x9", "0x0010", "09", "10"] ∧
      sortTexts ["16", "0x9", "0x0010", "09", "10"] = .ok ["0x9", "0xa", "0x10"] ∧
      (∃ s ∈ ["9", "0X9", ""], ¬IsAccepted s) ∧
      ∃ s e, ¬IsAccepted s ∧ ofText s = .error e ∧ sortTexts ["9", "0X9", ""] = .error e := by
  intro texts
  have accept (n : Nat) {s : String} (small : n < 2 ^ 64) (read : number? s.toList = some n) :
      IsAccepted s := ⟨n, small, number?_eq_some_iff.mp read⟩
  have accepted : ∀ s ∈ texts, IsAccepted s := by
    simp only [texts, List.forall_mem_cons]
    exact ⟨accept 16 (by decide) (by decide), accept 9 (by decide) (by decide),
      accept 16 (by decide) (by decide), accept 9 (by decide) (by decide),
      accept 10 (by decide) (by decide), List.forall_mem_nil _⟩
  have same (n : Nat) {s t : String} (first : number? s.toList = some n)
      (second : number? t.toList = some n) : SameNumber s t :=
    ⟨n, number?_eq_some_iff.mp first, number?_eq_some_iff.mp second⟩
  have respelling : List.Forall₂ SameNumber texts ["16", "0x9", "0x0010", "09", "10"] :=
    .cons (same 16 (by decide) (by decide)) <| .cons (same 9 (by decide) (by decide)) <|
      .cons (same 16 (by decide) (by decide)) <| .cons (same 9 (by decide) (by decide)) <|
      .cons (same 10 (by decide) (by decide)) .nil
  have refused : ofText "0X9" = .error (.malformedAddress "0X9") := by decide
  have unread : ∃ s ∈ ["9", "0X9", ""], ¬IsAccepted s :=
    ⟨"0X9", by decide, (ofText_eq_error_iff.mp refused).1⟩
  obtain ⟨-, sorts⟩ := sorting_normalises texts
  obtain ⟨shown, sorted, normal, -, -, respelled, -⟩ := sorts accepted
  obtain rfl : shown = ["0x9", "0xa", "0x10"] := Except.ok.inj (sorted.symm.trans (by decide))
  obtain ⟨refuses, -⟩ := sorting_normalises ["9", "0X9", ""]
  obtain ⟨-, s, -, -, -, strange, e, outcome, failed⟩ := refuses unread
  exact ⟨accepted, by decide, normal, respelling, respelled _ respelling, unread, s, e, strange,
    outcome, failed⟩

end ControlPlane.Address
