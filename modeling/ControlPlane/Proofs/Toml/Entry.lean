import ControlPlane.Proofs.Text.Basic
import ControlPlane.Proofs.Toml.Scan
import ControlPlane.Settings.Basic

/-!
# Files of entries

A file that has one entry on each line, under different bare keys, is read to a
table with one member for each of them, in the same order.
-/

namespace ControlPlane.Toml

/-! ## Entries -/

/-- How a value is written at the end of a line, and the token that this is. -/
inductive Value.Spelled : Value → List Char → Token → Prop
  | text (s : String) : Spelled (.text s) (spellText s) (.text s false)
  | bool (b : Bool) :
      Spelled (.bool b) (if b then "true".toList else "false".toList)
        (.word (if b then "true".toList else "false".toList))

/-- A value under a bare key. -/
structure Entry where
  key : String
  value : Value
  /-- How the value is written. -/
  chars : List Char
  token : Token
  nonempty : key.toList ≠ []
  bare : key.toList.all isBareKeyChar = true
  spelled : value.Spelled chars token

namespace Entry

/-- A text under a key. -/
def ofText (key : String) (s : String) (nonempty : key.toList ≠ [])
    (bare : key.toList.all isBareKeyChar = true) : Entry where
  key
  value := .text s
  chars := spellText s
  token := .text s false
  nonempty
  bare
  spelled := .text s

/-- A truth value under a key. -/
def ofBool (key : String) (b : Bool) (nonempty : key.toList ≠ [])
    (bare : key.toList.all isBareKeyChar = true) : Entry where
  key
  value := .bool b
  chars := if b then "true".toList else "false".toList
  token := .word (if b then "true".toList else "false".toList)
  nonempty
  bare
  spelled := .bool b

/-- The line of an entry. -/
def line (e : Entry) : List Char :=
  Settings.fileLine e.key e.chars

/-- The tokens of the line of an entry. -/
def tokens (e : Entry) : List Token :=
  [.word e.key.toList, .equals, e.token, .newline]

/-- The member that an entry amounts to. -/
def member (e : Entry) : String × Value :=
  (e.key, e.value)

end Entry

/-! ## Scanning -/

namespace Value.Spelled

variable {v : Value} {chars : List Char} {token : Token}

theorem run (spelled : v.Spelled chars token) (rest : List Char) :
    (Mode.between none).run (chars ++ '\n' :: rest) =
      token :: .newline :: (Mode.between none).run rest := by
  cases spelled with
  | text s => exact Mode.run_spellText s rest
  | bool b => cases b <;> rfl

theorem return_not_mem (spelled : v.Spelled chars token) : '\r' ∉ chars := by
  cases spelled with
  | text s => exact return_not_mem_spellText s
  | bool b => cases b <;> decide

end Value.Spelled

namespace Entry

theorem run_line (e : Entry) (rest : List Char) :
    (Mode.between none).run (e.line ++ rest) = e.tokens ++ (Mode.between none).run rest := by
  have shape : e.line ++ rest =
      e.key.toList ++ (" = ".toList ++ (e.chars ++ '\n' :: rest)) := by
    simp [line, Settings.fileLine]
  rw [shape, Mode.run_bareKey e.nonempty (List.all_eq_true.mp e.bare), e.spelled.run]
  rfl

theorem run_lines (entries : List Entry) :
    (Mode.between none).run (entries.flatMap line) = entries.flatMap tokens := by
  induction entries with
  | nil => rfl
  | cons e entries ih => rw [List.flatMap_cons, run_line, ih, List.flatMap_cons]

theorem return_not_mem_line (e : Entry) : '\r' ∉ e.line := by
  have notInKey : '\r' ∉ e.key.toList :=
    fun inKey => absurd (List.all_eq_true.mp e.bare _ inKey) (by decide)
  simp [line, Settings.fileLine, notInKey, e.spelled.return_not_mem]

/-- No line begins with the mark of the byte order. -/
theorem dropByteOrderMark_lines (entries : List Entry) :
    dropByteOrderMark (entries.flatMap line) = entries.flatMap line := by
  unfold dropByteOrderMark
  split
  · next rest isMark =>
      have first : (entries.flatMap line).head? = some '\uFEFF' := by rw [isMark]; rfl
      cases entries with
      | nil => exact absurd first (by simp)
      | cons e entries =>
          obtain ⟨c, letters, isCons⟩ := List.exists_cons_of_ne_nil e.nonempty
          have isBare := e.bare
          rw [isCons, List.all_cons, Bool.and_eq_true] at isBare
          simp only [List.flatMap_cons, line, Settings.fileLine, isCons, List.cons_append,
            List.head?_cons, Option.some.injEq] at first
          rw [first] at isBare
          exact absurd isBare.1 (by decide)
  · rfl

theorem scan_lines (entries : List Entry) :
    Token.scan (entries.flatMap line) = entries.flatMap tokens := by
  have noReturn : '\r' ∉ entries.flatMap line := by
    simp [List.mem_flatMap, return_not_mem_line]
  rw [Token.scan, dropByteOrderMark_lines, unifyLines_of_not_mem noReturn, run_lines]

end Entry

/-! ## Reading -/

/-- A bare key is a key of one part. -/
theorem PartialKey.extend?_bareKey {key : String} (nonempty : key.toList ≠ [])
    (bare : key.toList.all isBareKeyChar = true) :
    PartialKey.empty.extend? (.word key.toList) = some ⟨[key], false⟩ := by
  have noDot : '.' ∉ key.toList :=
    fun inKey => absurd (List.all_eq_true.mp bare _ inKey) (by decide)
  have notEmpty : ¬key.toList.isEmpty = true := by simpa using nonempty
  rw [extend?, Text.cut_of_not_mem noDot, addBares, addBare, if_neg notEmpty, if_pos bare,
    String.ofList_toList]
  rfl

/-- A value is put where it belongs. -/
theorem Value.Spelled.value? {v : Value} {chars : List Char} {token : Token}
    (spelled : v.Spelled chars token) (r : Reading) (frame : Frame) :
    r.value? frame token = r.settle frame r.frames v := by
  cases spelled with
  | text s => rfl
  | bool b => cases b <;> rfl

namespace Reading

/-- A document that has had no header so far, outside all containers. -/
def flat (stage : Stage) (members : List (String × Value)) : Reading where
  root := ⟨.explicit, members⟩
  header := []
  frames := []
  stage := stage

/-- A line adds one member. -/
theorem foldlM_tokens {e : Entry} {members : List (String × Value)}
    (fresh : members.lookup e.key = none) :
    e.tokens.foldlM step (flat .line members) = some (flat .line (members ++ [e.member])) := by
  have afterKey : (flat .line members).step (.word e.key.toList) =
      some (flat (.key ⟨[e.key], false⟩) members) := by
    simp only [step, flat, PartialKey.extend?_bareKey e.nonempty e.bare]
    rfl
  have added : Table.within .implicit (Table.assign [] e.key e.value) [] ⟨.explicit, members⟩ =
      some ⟨.explicit, members ++ [e.member]⟩ := by
    simp [Table.within, Table.assign, Table.put, Table.get?, fresh, Entry.member]
  have afterValue : (flat (.value (.entry [] e.key)) members).step e.token =
      some (flat .lineEnd (members ++ [e.member])) := by
    change (flat _ members).value? (.entry [] e.key) e.token = _
    rw [e.spelled.value?, settle]
    change (Table.within .implicit _ [] ⟨.explicit, members⟩ >>= _) = _
    rw [added]
    rfl
  calc
    _ = [.equals, e.token, .newline].foldlM step (flat (.key ⟨[e.key], false⟩) members) := by
        rw [Entry.tokens, List.foldlM_cons, afterKey]
        rfl
    _ = [e.token, .newline].foldlM step (flat (.value (.entry [] e.key)) members) := rfl
    _ = _ := by
        rw [List.foldlM_cons, afterValue]
        rfl

/-- Lines under different keys add a member each. -/
theorem foldlM_lines {entries : List Entry} {members : List (String × Value)}
    (fresh : ∀ e ∈ entries, members.lookup e.key = none)
    (distinct : (entries.map Entry.key).Nodup) :
    (entries.flatMap Entry.tokens).foldlM step (flat .line members) =
      some (flat .line (members ++ entries.map Entry.member)) := by
  induction entries generalizing members with
  | nil => rw [List.map_nil, List.append_nil]; rfl
  | cons e entries ih =>
      obtain ⟨notAgain, distinct⟩ := List.nodup_cons.mp distinct
      have stillFresh : ∀ other ∈ entries, (members ++ [e.member]).lookup other.key = none := by
        intro other otherMem
        have differs : other.key ≠ e.key := by
          intro same
          exact notAgain (same ▸ List.mem_map_of_mem otherMem)
        rw [List.lookup_append, fresh other (List.mem_cons_of_mem e otherMem)]
        simp [Entry.member, differs]
      rw [List.flatMap_cons, List.foldlM_append, foldlM_tokens (fresh e List.mem_cons_self),
        Option.bind_eq_bind, Option.bind_some, ih stillFresh distinct, List.map_cons,
        List.append_assoc, List.singleton_append]

end Reading

/-- The document that the lines of entries make up. -/
theorem Document.ofText?_lines {entries : List Entry}
    (distinct : (entries.map Entry.key).Nodup) :
    Document.ofText? (String.ofList (entries.flatMap Entry.line)) =
      some ⟨.explicit, entries.map Entry.member⟩ := by
  have read : (entries.flatMap Entry.tokens).foldlM Reading.step (.flat .line []) =
      some (.flat .line (entries.map Entry.member)) :=
    Reading.foldlM_lines (fun _ _ => rfl) distinct
  rw [Document.ofText?, String.toList_ofList, Entry.scan_lines]
  change ((entries.flatMap Entry.tokens).foldlM Reading.step (.flat .line []) >>=
    Reading.finish?) = _
  rw [read]
  rfl

end ControlPlane.Toml
