import ControlPlane.Json.Tagged
import ControlPlane.Proofs.Json.Reading

/-!
# Drafts of written values

The draft of a value is a JSON value at any depth, and numbers of 64 bits may be looked
into.  The members of a written object are given by their names and drafts.
-/

namespace ControlPlane.Json

namespace Value

mutual

/-- The draft of a value is a JSON value. -/
theorem isValue_draft (v : Value) : v.draft.isValue = true := by
  cases v with
  | array items => simp [draft, Draft.isValue, areValues_itemDrafts items]
  | object members => simp [draft, Draft.isValue, areMemberValues_memberDrafts members]
  | _ => rfl

theorem areValues_itemDrafts (items : List Value) :
    Draft.areValues (itemDrafts items) = true := by
  cases items with
  | nil => rfl
  | cons item items =>
      simp [itemDrafts, Draft.areValues, isValue_draft item, areValues_itemDrafts items]

theorem areMemberValues_memberDrafts (members : List (String × Value)) :
    Draft.areMemberValues (memberDrafts members) = true := by
  cases members with
  | nil => rfl
  | cons member members =>
      obtain ⟨key, value⟩ := member
      simp [memberDrafts, Draft.areMemberValues, isValue_draft value,
        areMemberValues_memberDrafts members]

end

end Value

/-! ## Numbers -/

/-- Natural numbers of 64 bits denote themselves. -/
theorem Number.ofNumeral?_ofNat {n : Nat} (small : n < UInt64.size) :
    Number.ofNumeral? (.ofNat n) = some (.natural n) := by
  have denoted : (Number.Numeral.ofNat n).whole.foldl
      (fun value digit => value * 10 + digit) 0 = n := Number.Numeral.ofDigits_whole_ofNat n
  rw [Number.ofNumeral?, if_pos ⟨rfl, rfl⟩, denoted]
  exact if_pos ⟨rfl, small⟩

/-- A number of 64 bits may be looked into. -/
theorem Value.isReadable_natural {n : Nat} (small : n < UInt64.size) (depth : Nat) :
    (natural n).draft.isReadable depth = true := by
  rw [natural, draft, Draft.isReadable, Number.ofNumeral?_ofNat small]
  rfl

/-! ## Members -/

/-- A member of an object whose name was read. -/
abbrev Record.named (m : String × Draft) : Option String × Draft :=
  (some m.1, m.2)

/-- The drafts of members by name. -/
def Value.drafts (members : List (String × Value)) : List (String × Draft) :=
  members.map fun m => (m.1, m.2.draft)

theorem Value.drafts_append (members others : List (String × Value)) :
    drafts (members ++ others) = drafts members ++ drafts others :=
  List.map_append

theorem Value.isValue_of_mem_drafts {members : List (String × Value)} :
    ∀ m ∈ drafts members, m.2.isValue = true := by
  rw [drafts, List.forall_mem_map]
  exact fun m _ => m.2.isValue_draft

theorem Value.draft_object (members : List (String × Value)) :
    (Value.object members).draft = .object ((drafts members).map Record.named) .closed := by
  rw [draft, memberDrafts_eq_map, drafts, List.map_map]
  rfl

theorem enter_of_deep {depth : Nat} (deep : 1 < depth) : enter depth = .ok (depth - 1) :=
  if_neg (Nat.not_le.mpr deep)

end ControlPlane.Json
