import ControlPlane.Proofs.Settings.Loading

/-!
# Settings one by one

If no name is a path, then the layers are merged name by name: a setting has the raw value
of its variable, else that of its entry in the file, else none.  What is loaded is decided
by these raw values, each of which decides about its own setting.  So it does not matter
what else is set, nor what the file says of a setting that has a variable.
-/

namespace ControlPlane

/-! ## Names that are no paths -/

namespace SettingPath

/-- A name in which no step of a path begins. -/
def IsWhole (name : List Char) : Prop :=
  '.' ∉ name ∧ '[' ∉ name

/-- A name without steps leads to no part of anything. -/
theorem isBelow_of_isWhole {name : String} (whole : IsWhole name.toList) (setting : String) :
    isBelow setting name = false := by
  rw [isBelow, Bool.and_eq_false_iff]
  right
  cases rest : name.toList.drop setting.toList.length with
  | nil => rfl
  | cons c rest =>
      have cMem : c ∈ name.toList := List.mem_of_mem_drop (rest ▸ List.mem_cons_self)
      have stuck : step .closed c = none := by
        rw [step, begin?, if_neg (ne_of_mem_of_not_mem cMem whole.1),
          if_neg (ne_of_mem_of_not_mem cMem whole.2)]
      rw [isDescent, List.foldlM_cons, stuck]
      rfl

end SettingPath

/-- A name of letters, digits and underscores. -/
def IsPlainName (name : List Char) : Prop :=
  ∀ c ∈ name, c.isAlphanum = true ∨ c = '_'

namespace IsPlainName

variable {name : List Char}

theorem isAlphanum_iff {c : Char} :
    c.isAlphanum = true ↔ (c.isUpper = true ∨ c.isLower = true) ∨ c.isDigit = true := by
  change ((c.isUpper || c.isLower) || c.isDigit) = true ↔ _
  simp only [Bool.or_eq_true]

theorem toNat_lt_of_isAlphanum {c : Char} (isAlphanum : c.isAlphanum = true) : c.toNat < 128 := by
  have below {high : UInt32} (le : c.val ≤ high) (small : high.toNat < 128) : c.toNat < 128 :=
    Nat.lt_of_le_of_lt le small
  rcases isAlphanum_iff.mp isAlphanum with (isUpper | isLower) | isDigit
  · exact below (of_decide_eq_true isUpper : c.val ≥ 'A'.val ∧ c.val ≤ 'Z'.val).2 (by decide)
  · exact below (of_decide_eq_true (Bool.and_eq_true_iff.mp isLower).2) (by decide)
  · exact below (of_decide_eq_true (Bool.and_eq_true_iff.mp isDigit).2) (by decide)

/-- In small letters a plain name is still plain. -/
theorem map_toLower (plain : IsPlainName name) : IsPlainName (name.map Char.toLower) := by
  have all : ∀ n < 128, (Char.ofNat n).isAlphanum = true →
      (Char.ofNat n).toLower.isAlphanum = true := by decide
  rw [IsPlainName, List.forall_mem_map]
  intro c cMem
  rcases plain c cMem with isAlphanum | rfl
  · left
    have small := all c.toNat (toNat_lt_of_isAlphanum isAlphanum)
    rw [Char.ofNat_toNat] at small
    exact small isAlphanum
  · exact .inr rfl

theorem isWhole (plain : IsPlainName name) : SettingPath.IsWhole name := by
  constructor
  · intro dotMem
    exact absurd (plain _ dotMem) (by decide)
  · intro bracketMem
    exact absurd (plain _ bracketMem) (by decide)

end IsPlainName

namespace Layer

variable {layer : Layer} {setting : String}

/-- A layer of plain names holds what it lists and no parts. -/
theorem raw?_eq_lookup (plain : ∀ entry ∈ layer, IsPlainName entry.1.toList) :
    layer.raw? setting = layer.lookup setting := by
  have noPart : (layer.any fun entry => SettingPath.isBelow setting entry.1) = false := by
    rw [List.any_eq_false]
    intro entry entryMem
    simp [SettingPath.isBelow_of_isWhole (plain entry entryMem).isWhole]
  rw [raw?, noPart]
  cases layer.lookup setting <;> rfl

theorem raw?_eq_none (plain : ∀ entry ∈ layer, IsPlainName entry.1.toList)
    (unlisted : ∀ entry ∈ layer, entry.1 ≠ setting) : layer.raw? setting = none := by
  rw [raw?_eq_lookup plain, List.lookup_eq_none_iff]
  intro entry entryMem
  exact bne_iff_ne.mpr (unlisted entry entryMem).symm

/-- The layer of a document holds its members. -/
theorem raw?_ofDocument {document : Toml.Table Toml.Value}
    (plain : ∀ m ∈ document.members, IsPlainName m.1.toList) (setting : String) :
    (ofDocument document).raw? setting = (document.get? setting).map Raw.ofToml := by
  have listedAs (members : List (String × Toml.Value)) :
      (members.map fun m => (m.1, Raw.ofToml m.2)).lookup setting =
        (members.lookup setting).map Raw.ofToml := by
    induction members with
    | nil => rfl
    | cons m members ih =>
        rw [List.map_cons, List.lookup_cons, List.lookup_cons, ih]
        split <;> rfl
  rw [raw?_eq_lookup, ofDocument, listedAs, Toml.Table.get?]
  rw [ofDocument, List.forall_mem_map]
  exact plain

end Layer

namespace Settings

/-! ## Sources -/

/-- A variable of this name is for a setting. -/
def IsVariableOf (name setting : String) : Prop :=
  Raw.inSmallLetters name = "ssi_" ++ setting

instance (name setting : String) : Decidable (IsVariableOf name setting) :=
  inferInstanceAs (Decidable (_ = _))

/-- A file that is no TOML. -/
def IsUnreadable (file : Option String) : Prop :=
  ∃ text, file = some text ∧ Toml.Document.ofText? text = none

/-- Sources without paths, in which no setting has two variables. -/
structure PlainSources (file : Option String) (environment : List (String × String)) :
    Prop where
  inFile : ∀ text document, file = some text → Toml.Document.ofText? text = some document →
    ∀ m ∈ document.members, ∀ c ∈ m.1.toList, c.isLower = true ∨ c.isDigit = true ∨ c = '_'
  inEnvironment : ∀ v ∈ environment, (∃ setting, IsVariableOf v.1 setting) → IsPlainName v.1.toList
  distinct : environment.Pairwise fun v w =>
    ∀ setting, IsVariableOf v.1 setting → ¬IsVariableOf w.1 setting

/-- The value that a file lists under the name of a setting. -/
def listed? (file : Option String) (setting : String) : Option Toml.Value := do
  (← Toml.Document.ofText? (← file)).get? setting

/-- The raw value that counts for a setting, if there is one: that of its variable, else
that of its entry in the file. -/
inductive Effective (file : Option String) (environment : List (String × String))
    (setting : String) : Option Raw → Prop
  | held {name text : String} (inEnvironment : (name, text) ∈ environment)
      (isVariable : IsVariableOf name setting) :
      Effective file environment setting (some (.ofVariable text))
  | listed {value : Toml.Value} (unheld : ∀ v ∈ environment, ¬IsVariableOf v.1 setting)
      (found : listed? file setting = some value) :
      Effective file environment setting (some (.ofToml value))
  | unset (unheld : ∀ v ∈ environment, ¬IsVariableOf v.1 setting)
      (unlisted : listed? file setting = none) :
      Effective file environment setting none

/-! ## Reading the layers -/

theorem settingOfVariable?_eq_some_iff {name setting : String} :
    settingOfVariable? name = some setting ↔ IsVariableOf name setting := by
  have front : (Raw.inSmallLetters variablePrefix).toList ++ ['_'] = "ssi_".toList := by decide
  rw [IsVariableOf, ← String.toList_inj, String.toList_append, settingOfVariable?, front]
  split
  · next isPrefix =>
      obtain ⟨rest, split⟩ := List.isPrefixOf_iff_prefix.mp isPrefix
      rw [← split, List.drop_left, Option.some.injEq, ← String.toList_inj, String.toList_ofList,
        List.append_cancel_left_eq]
  · next noPrefix =>
      simp only [reduceCtorEq, false_iff]
      intro split
      exact noPrefix (List.isPrefixOf_iff_prefix.mpr ⟨_, split.symm⟩)

/-- What a plain variable is for has a plain name. -/
theorem IsVariableOf.isPlainName {name setting : String} (isVariable : IsVariableOf name setting)
    (plain : IsPlainName name.toList) : IsPlainName setting.toList := by
  have small := plain.map_toLower
  have letters := congrArg String.toList isVariable
  rw [Raw.inSmallLetters, String.toList_ofList, String.toList_append] at letters
  rw [letters] at small
  exact fun c cMem => small c (List.mem_append_right _ cMem)

theorem mem_ofEnvironment_iff {environment : List (String × String)} {entry : String × Raw} :
    entry ∈ Layer.ofEnvironment environment ↔
      ∃ v ∈ environment, IsVariableOf v.1 entry.1 ∧ Raw.ofVariable v.2 = entry.2 := by
  simp only [Layer.ofEnvironment, List.mem_filterMap, List.mem_reverse, Option.map_eq_some_iff,
    settingOfVariable?_eq_some_iff]
  constructor
  · rintro ⟨v, vMem, setting, isVariable, rfl⟩
    exact ⟨v, vMem, isVariable, rfl⟩
  · rintro ⟨v, vMem, isVariable, same⟩
    exact ⟨v, vMem, entry.1, isVariable, by rw [same]⟩

theorem fileLayer_of_unreadable {file : Option String} (unreadable : IsUnreadable file) :
    fileLayer file = .error .unreadableFile := by
  obtain ⟨text, rfl, unread⟩ := unreadable
  rw [fileLayer, unread]

theorem listed?_of_ofText? {text : String} {document : Toml.Table Toml.Value}
    (read : Toml.Document.ofText? text = some document) (setting : String) :
    listed? (some text) setting = document.get? setting := by
  rw [listed?, Option.bind_eq_bind, Option.bind_some, read]
  rfl

theorem exists_fileLayer {file : Option String} (readable : ¬IsUnreadable file) :
    ∃ layer, fileLayer file = .ok layer := by
  cases file with
  | none => exact ⟨[], rfl⟩
  | some text =>
      cases read : Toml.Document.ofText? text with
      | none => exact absurd ⟨text, rfl, read⟩ readable
      | some document => exact ⟨.ofDocument document, by rw [fileLayer, read]⟩

section

variable {file : Option String} {environment : List (String × String)} {setting : String}
  {layer : Layer}

namespace PlainSources

theorem isPlainName_of_mem (plain : PlainSources file environment) {entry : String × Raw}
    (entryMem : entry ∈ Layer.ofEnvironment environment) : IsPlainName entry.1.toList := by
  obtain ⟨v, vMem, isVariable, _⟩ := mem_ofEnvironment_iff.mp entryMem
  exact isVariable.isPlainName (plain.inEnvironment v vMem ⟨_, isVariable⟩)

/-- No setting is listed twice. -/
theorem unambiguous (plain : PlainSources file environment) :
    ((Layer.ofEnvironment environment).map Prod.fst).Nodup := by
  rw [List.Nodup, List.pairwise_map, Layer.ofEnvironment, List.pairwise_filterMap,
    List.pairwise_reverse]
  refine plain.distinct.imp ?_
  rintro v w distinct _ isW _ isV same
  obtain ⟨setting, settingW, rfl⟩ := Option.map_eq_some_iff.mp isW
  obtain ⟨setting', settingV, rfl⟩ := Option.map_eq_some_iff.mp isV
  obtain rfl : setting = setting' := same
  exact distinct setting (settingOfVariable?_eq_some_iff.mp settingV)
    (settingOfVariable?_eq_some_iff.mp settingW)

theorem raw?_of_held (plain : PlainSources file environment) {name text : String}
    (held : (name, text) ∈ environment) (isVariable : IsVariableOf name setting) :
    (Layer.ofEnvironment environment).raw? setting = some (.ofVariable text) :=
  Layer.raw?_of_mem plain.unambiguous
    (mem_ofEnvironment_iff.mpr ⟨(name, text), held, isVariable, rfl⟩)

theorem raw?_of_unheld (plain : PlainSources file environment)
    (unheld : ∀ v ∈ environment, ¬IsVariableOf v.1 setting) :
    (Layer.ofEnvironment environment).raw? setting = none := by
  apply Layer.raw?_eq_none fun entry entryMem => plain.isPlainName_of_mem entryMem
  rintro entry entryMem rfl
  obtain ⟨v, vMem, isVariable, _⟩ := mem_ofEnvironment_iff.mp entryMem
  exact unheld v vMem isVariable

/-- The layer of the file holds what the file lists. -/
theorem raw?_of_fileLayer (plain : PlainSources file environment)
    (layered : fileLayer file = .ok layer) (setting : String) :
    layer.raw? setting = (listed? file setting).map Raw.ofToml := by
  cases file with
  | none =>
      obtain rfl := Except.ok.inj layered
      rfl
  | some text =>
      cases read : Toml.Document.ofText? text with
      | none =>
          rw [fileLayer, read] at layered
          cases layered
      | some document =>
          rw [fileLayer, read] at layered
          obtain rfl := Except.ok.inj layered
          rw [listed?_of_ofText? read]
          apply Layer.raw?_ofDocument
          intro m mMem c cMem
          rcases plain.inFile text document rfl read m mMem c cMem with isLower | isDigit | isMark
          · exact .inl (IsPlainName.isAlphanum_iff.mpr (.inl (.inr isLower)))
          · exact .inl (IsPlainName.isAlphanum_iff.mpr (.inr isDigit))
          · exact .inr isMark

end PlainSources

/-- The effective raw value is the one that the layers hold. -/
theorem Effective.effective?_eq {raw? : Option Raw}
    (effective : Effective file environment setting raw?)
    (plain : PlainSources file environment) (layered : fileLayer file = .ok layer) :
    effective? (.ofEnvironment environment) layer setting = raw? := by
  rw [effective?, plain.raw?_of_fileLayer layered]
  cases effective with
  | held inEnvironment isVariable =>
      rw [plain.raw?_of_held inEnvironment isVariable]
      rfl
  | listed unheld found =>
      rw [plain.raw?_of_unheld unheld, found]
      rfl
  | unset unheld unlisted =>
      rw [plain.raw?_of_unheld unheld, unlisted]
      rfl

/-- There always is something that counts for a setting. -/
theorem exists_effective (file : Option String) (environment : List (String × String))
    (setting : String) : ∃ raw?, Effective file environment setting raw? := by
  by_cases held : ∃ v ∈ environment, IsVariableOf v.1 setting
  · obtain ⟨v, vMem, isVariable⟩ := held
    exact ⟨_, .held vMem isVariable⟩
  have unheld : ∀ v ∈ environment, ¬IsVariableOf v.1 setting :=
    fun v vMem isVariable => held ⟨v, vMem, isVariable⟩
  cases found : listed? file setting with
  | some value => exact ⟨_, .listed unheld found⟩
  | none => exact ⟨_, .unset unheld found⟩

theorem effective?_eq_iff (plain : PlainSources file environment)
    (layered : fileLayer file = .ok layer) {raw? : Option Raw} :
    effective? (.ofEnvironment environment) layer setting = raw? ↔
      Effective file environment setting raw? := by
  constructor
  · rintro rfl
    obtain ⟨raw?, effective⟩ := exists_effective file environment setting
    rwa [effective.effective?_eq plain layered]
  · exact fun effective => effective.effective?_eq plain layered

end

end Settings

end ControlPlane
