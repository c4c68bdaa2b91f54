import ControlPlane.Json.Decoder
import ControlPlane.Proofs.Json.Scan

/-!
# The draft of a rendered value

Reading the tokens of a value builds its draft and goes on with what follows.  The
text of a plain value is therefore read to the draft of the value, and nothing is
left over, so that decoding the text is decoding that draft.
-/

namespace ControlPlane.Json

namespace Value

mutual

/-- The draft that a value is read to. -/
def draft : Value → Draft
  | null => .null
  | bool b => .bool b
  | number n => .number n
  | text s => .text (some s)
  | array items => .array (itemDrafts items) true
  | object members => .object (memberDrafts members) .closed

/-- The drafts of items. -/
def itemDrafts : List Value → List Draft
  | [] => []
  | item :: rest => item.draft :: itemDrafts rest

/-- The drafts of members, with their names. -/
def memberDrafts : List (String × Value) → List (Option String × Draft)
  | [] => []
  | (key, value) :: rest => (some key, value.draft) :: memberDrafts rest

end

theorem memberDrafts_eq_map (members : List (String × Value)) :
    memberDrafts members = members.map fun m => (some m.1, m.2.draft) := by
  induction members with
  | nil => rfl
  | cons member members ih => rw [memberDrafts, ih, List.map_cons]

theorem itemDrafts_eq_map (items : List Value) : itemDrafts items = items.map draft := by
  induction items with
  | nil => rfl
  | cons item items ih => rw [itemDrafts, ih, List.map_cons]

theorem draft_array (items : List Value) :
    (array items).draft = .array (items.map draft) true := by
  rw [draft, itemDrafts_eq_map]

/-- No value begins with a closing bracket, so a bracket that opens an array of
values is never closed at once. -/
theorem tokens_append_ne_closeBracket (v : Value) (rest others : List Token) :
    v.tokens ++ rest ≠ .closeBracket :: others := by
  cases v with
  | array items => cases items <;> simp [tokens]
  | object members => cases members <;> simp [tokens]
  | _ => simp [tokens]

mutual

/-- Reading the tokens of a value places its draft. -/
theorem read_tokens (v : Value) (rest : List Token) (frames : List Frame) :
    Draft.read (v.tokens ++ rest) frames = Draft.place v.draft rest frames := by
  cases v with
  | null => rfl
  | bool b => rfl
  | number n => rfl
  | text s => rfl
  | array items =>
      cases items with
      | nil => rfl
      | cons item items =>
          -- The array is read as a nonempty one: its first item is no closing bracket.
          rw [tokens, List.cons_append, List.append_assoc, Draft.read, read_tokens,
            place_itemTokens]
          · rfl
          · exact tokens_append_ne_closeBracket item _
  | object members =>
      cases members with
      | nil => rfl
      | cons member members =>
          obtain ⟨key, value⟩ := member
          rw [tokens, List.cons_append, List.cons_append, List.cons_append, List.append_assoc,
            Draft.read, read_tokens, place_memberTokens]
          rfl

/-- The items that follow are placed after those that are there. -/
theorem place_itemTokens (items : List Value) (d : Draft) (before : List Draft)
    (rest : List Token) (frames : List Frame) :
    Draft.place d (itemTokens items ++ rest) (.array before :: frames) =
      Draft.place (.array ((d :: before).reverse ++ itemDrafts items) true) rest frames := by
  cases items with
  | nil => rw [itemTokens, itemDrafts, List.append_nil]; rfl
  | cons item items =>
      rw [itemTokens, List.cons_append, List.append_assoc, Draft.place, read_tokens,
        place_itemTokens, itemDrafts, List.reverse_cons, List.append_assoc]
      rfl

/-- The members that follow are placed after those that are there. -/
theorem place_memberTokens (members : List (String × Value)) (d : Draft) (key : Option String)
    (before : List (Option String × Draft)) (rest : List Token) (frames : List Frame) :
    Draft.place d (memberTokens members ++ rest) (.object before key :: frames) =
      Draft.place (.object (((key, d) :: before).reverse ++ memberDrafts members) .closed)
        rest frames := by
  cases members with
  | nil => rw [memberTokens, memberDrafts, List.append_nil]; rfl
  | cons member members =>
      obtain ⟨next, value⟩ := member
      rw [memberTokens, List.cons_append, List.cons_append, List.cons_append,
        List.append_assoc, Draft.place, read_tokens, place_memberTokens, memberDrafts,
        List.reverse_cons, List.append_assoc]
      rfl

end

/-- The text of a plain value is read to its draft, and nothing is left over. -/
theorem Plain.ofText_render {v : Value} (plain : v.Plain) :
    Draft.ofText v.render.toList = (v.draft, []) := by
  rw [Draft.ofText, plain.scan_render, ← List.append_nil v.tokens, read_tokens]
  rfl

end Value

namespace Decoder

/-- Decoding a text that is one value and nothing more is decoding its draft. -/
theorem ofText_of_draft {s : String} {d : Draft} (whole : Draft.ofText s.toList = (d, []))
    (decode : Decoder α) : ofText decode s = decode depthLimit d := by
  rw [ofText, whole]
  cases decoded : decode depthLimit d <;> simp [decoded]

/-- No other text is decoded. -/
theorem exists_draft_of_ofText {decode : Decoder α} {s : String} {a : α}
    (decoded : ofText decode s = .ok a) : ∃ d, Draft.ofText s.toList = (d, []) := by
  rw [ofText] at decoded
  split at decoded
  next d rest whole =>
    split at decoded
    · cases decoded
    · cases rest with
      | nil => exact ⟨d, whole⟩
      | cons token rest => cases decoded

/-- Decoding the text of a plain value is decoding its draft. -/
theorem ofText_render {v : Value} (plain : v.Plain) (decode : Decoder α) :
    ofText decode v.render = decode depthLimit v.draft :=
  ofText_of_draft plain.ofText_render decode

/-- A text whose draft is never decoded is refused. -/
theorem exists_refusal {decode : Decoder α} {s : String} {d : Draft} {rest : List Token}
    (read : Draft.ofText s.toList = (d, rest)) (refused : ∀ a, decode depthLimit d ≠ .ok a) :
    ∃ refusal, ofText decode s = .error refusal := by
  rw [ofText, read]
  cases decoded : decode depthLimit d with
  | error refusal => exact ⟨refusal, by simp [decoded]⟩
  | ok a => exact absurd decoded (refused a)

end Decoder

end ControlPlane.Json
