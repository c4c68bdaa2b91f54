import ControlPlane.Json.Tagged

/-!
# Values that may be looked into

A draft may be looked into if nothing in it is unreadable, which is a matter of the
text alone, and if its containers nest less deeply than the depth that is left.  A
draft that is readable throughout is a JSON value.
-/

namespace ControlPlane.Json.Draft

mutual

/-- How many containers stand inside one another. -/
def nesting : Draft → Nat
  | array items _ => deepest items + 1
  | object members _ => deepestValue members + 1
  | fault | null | bool _ | number _ | text _ => 0

/-- The deepest nesting among items. -/
def deepest : List Draft → Nat
  | [] => 0
  | d :: rest => max d.nesting (deepest rest)

/-- The deepest nesting among the values of members. -/
def deepestValue : List (Option String × Draft) → Nat
  | [] => 0
  | (_, d) :: rest => max d.nesting (deepestValue rest)

end

mutual

/-- Is the draft a JSON value in which no text holds a lone surrogate and no number
overflows a double? -/
def isClear : Draft → Bool
  | fault => false
  | null | bool _ => true
  | number n => (Number.ofNumeral? n).isSome
  | text s => s.isSome
  | array items closed => areClear items && closed
  | object members tail => areClearMembers members && tail = .closed

/-- Are all items clear? -/
def areClear : List Draft → Bool
  | [] => true
  | d :: rest => d.isClear && areClear rest

/-- Are the names and the values of all members clear? -/
def areClearMembers : List (Option String × Draft) → Bool
  | [] => true
  | (key, d) :: rest => key.isSome && d.isClear && areClearMembers rest

end

/-- A container may be looked into if there is room for it and what stands inside may be
looked into with one level less. -/
private theorem readable_container_iff {depth inner : Nat} {readable clear shut : Bool}
    (inside : 0 < depth - 1 → (readable = true ↔ clear = true ∧ inner < depth - 1)) :
    (decide (1 < depth) && readable && shut) = true ↔
      (clear && shut) = true ∧ inner + 1 < depth := by
  simp only [Bool.and_eq_true, decide_eq_true_eq]
  constructor
  · rintro ⟨⟨deep, isReadable⟩, isShut⟩
    obtain ⟨isClear, fits⟩ := (inside (Nat.sub_pos_of_lt deep)).mp isReadable
    exact ⟨⟨isClear, isShut⟩, Nat.add_lt_of_lt_sub fits⟩
  · rintro ⟨⟨isClear, isShut⟩, fits⟩
    have deep : 1 < depth := by omega
    exact ⟨⟨deep, (inside (Nat.sub_pos_of_lt deep)).mpr ⟨isClear, Nat.lt_sub_of_add_lt fits⟩⟩,
      isShut⟩

mutual

/-- A draft may be looked into exactly if it is clear and does not nest too deeply. -/
theorem isReadable_iff (d : Draft) {depth : Nat} (positive : 0 < depth) :
    d.isReadable depth = true ↔ d.isClear = true ∧ d.nesting < depth := by
  cases d with
  | array items closed =>
      exact readable_container_iff fun deep => areReadable_iff items deep
  | object members tail =>
      exact readable_container_iff fun deep => areReadableMembers_iff members deep
  | _ => simp [isReadable, isClear, nesting, positive]

theorem areReadable_iff (items : List Draft) {depth : Nat} (positive : 0 < depth) :
    areReadable depth items = true ↔ areClear items = true ∧ deepest items < depth := by
  cases items with
  | nil => simp [areReadable, areClear, deepest, positive]
  | cons d rest =>
      have first := isReadable_iff d positive
      have others := areReadable_iff rest positive
      simp only [areReadable, areClear, deepest, Bool.and_eq_true, first, others,
        Nat.max_lt, and_assoc, and_left_comm]

theorem areReadableMembers_iff (members : List (Option String × Draft)) {depth : Nat}
    (positive : 0 < depth) :
    areReadableMembers depth members = true ↔
      areClearMembers members = true ∧ deepestValue members < depth := by
  cases members with
  | nil => simp [areReadableMembers, areClearMembers, deepestValue, positive]
  | cons member rest =>
      obtain ⟨key, d⟩ := member
      have first := isReadable_iff d positive
      have others := areReadableMembers_iff rest positive
      simp only [areReadableMembers, areClearMembers, deepestValue, Bool.and_eq_true, first,
        others, Nat.max_lt, and_assoc, and_left_comm]

end

section Congr

variable {depth other : Nat}

/-- Where there is room for its containers, the depth that is left does not decide whether
a draft may be looked into. -/
theorem isReadable_congr {d : Draft} (fits : d.nesting < depth) (fitsToo : d.nesting < other) :
    d.isReadable depth = d.isReadable other := by
  have room := isReadable_iff d (Nat.zero_lt_of_lt fits)
  have otherRoom := isReadable_iff d (Nat.zero_lt_of_lt fitsToo)
  rw [Bool.eq_iff_iff, room, otherRoom, and_iff_left fits, and_iff_left fitsToo]

theorem areReadable_congr {items : List Draft} (fits : deepest items < depth)
    (fitsToo : deepest items < other) : areReadable depth items = areReadable other items := by
  have room := areReadable_iff items (Nat.zero_lt_of_lt fits)
  have otherRoom := areReadable_iff items (Nat.zero_lt_of_lt fitsToo)
  rw [Bool.eq_iff_iff, room, otherRoom, and_iff_left fits, and_iff_left fitsToo]

end Congr

mutual

/-- What is clear is a JSON value. -/
theorem isValue_of_isClear (d : Draft) (clear : d.isClear = true) : d.isValue = true := by
  cases d with
  | fault => exact absurd clear Bool.false_ne_true
  | array items closed =>
      simp only [isClear, Bool.and_eq_true] at clear
      simp only [isValue, areValues_of_areClear items clear.1, clear.2, Bool.and_self]
  | object members tail =>
      simp only [isClear, Bool.and_eq_true] at clear
      simp only [isValue, areMemberValues_of_areClearMembers members clear.1, clear.2,
        Bool.and_self]
  | _ => rfl

theorem areValues_of_areClear (items : List Draft) (clear : areClear items = true) :
    areValues items = true := by
  cases items with
  | nil => rfl
  | cons d rest =>
      simp only [areClear, Bool.and_eq_true] at clear
      simp only [areValues, isValue_of_isClear d clear.1, areValues_of_areClear rest clear.2,
        Bool.and_self]

theorem areMemberValues_of_areClearMembers (members : List (Option String × Draft))
    (clear : areClearMembers members = true) : areMemberValues members = true := by
  cases members with
  | nil => rfl
  | cons member rest =>
      obtain ⟨key, d⟩ := member
      simp only [areClearMembers, Bool.and_eq_true] at clear
      simp only [areMemberValues, isValue_of_isClear d clear.1.2,
        areMemberValues_of_areClearMembers rest clear.2, Bool.and_self]

end

end ControlPlane.Json.Draft
