import ControlPlane.Proofs.Settings.Variable
import ControlPlane.Proofs.Toml.Entry
import ControlPlane.Settings.Basic
import Mathlib.Data.List.Basic

/-!
# Loading from one source

A layer that holds no name twice is looked up the same in whatever order it lists
its raw values.  Where one source sets everything and the other one nothing, the
settings are the converted raw values of that source.

The file of any settings is read back to these settings: there every text stands
between quotes, so that none is taken for something else.
-/

namespace ControlPlane

/-! ## Layers -/

namespace Layer

/-- What a layer lists once is what it holds. -/
theorem raw?_of_mem {layer : Layer} {name : String} {raw : Raw}
    (unambiguous : (layer.map Prod.fst).Nodup) (listed : (name, raw) ∈ layer) :
    layer.raw? name = some raw := by
  have found : layer.lookup name = some raw := by
    induction layer with
    | nil => exact absurd listed List.not_mem_nil
    | cons entry layer ih =>
        obtain ⟨notAgain, unambiguous⟩ := List.nodup_cons.mp unambiguous
        rcases List.mem_cons.mp listed with rfl | later
        · exact List.lookup_cons_self
        · have differs : name ≠ entry.1 := by
            rintro rfl
            exact notAgain (List.mem_map.mpr ⟨_, later, rfl⟩)
          rw [List.lookup_cons, beq_false_of_ne differs]
          exact ih unambiguous later
  rw [raw?, found]

/-- The order of the variables is the order of the layer. -/
theorem ofEnvironment_perm {environment other : List (String × String)}
    (same : environment.Perm other) : (ofEnvironment environment).Perm (ofEnvironment other) :=
  ((List.reverse_perm environment).trans (same.trans (List.reverse_perm other).symm)).filterMap _

theorem ofEnvironment_append (environment later : List (String × String)) :
    ofEnvironment (environment ++ later) = ofEnvironment later ++ ofEnvironment environment := by
  rw [ofEnvironment, List.reverse_append, List.filterMap_append]
  rfl

/-- Variables that are no settings make up an empty layer. -/
theorem ofEnvironment_of_silent {environment : List (String × String)}
    (silent : ∀ v ∈ environment, settingOfVariable? v.1 = none) :
    ofEnvironment environment = [] := by
  apply List.filterMap_eq_nil_iff.mpr
  intro v vMem
  rw [silent v (List.mem_reverse.mp vMem)]
  rfl

/-- A layer that sets everything. -/
def complete (address timeout permission id : Raw) : Layer :=
  [(Settings.listenAddressName, address), (Settings.requestTimeoutSecsName, timeout),
   (Settings.corsPermissiveName, permission), (Settings.coordinatorIdName, id)]

theorem nodup_complete (address timeout permission id : Raw) :
    ((complete address timeout permission id).map Prod.fst).Nodup := by
  change [Settings.listenAddressName, Settings.requestTimeoutSecsName,
    Settings.corsPermissiveName, Settings.coordinatorIdName].Nodup
  decide

end Layer

/-! ## Settings -/

namespace Settings

theorem load_of_fileLayer {file : Option String} {layer : Layer}
    (read : fileLayer file = .ok layer) (seed : UInt32) (environment : List (String × String)) :
    load seed file environment =
      ofRaw seed (effective? (.ofEnvironment environment) layer) := by
  rw [load, read]
  rfl

/-- An empty environment leaves it to the file. -/
theorem effective?_nil_left (file : Layer) : effective? [] file = file.raw? := rfl

/-- An empty file leaves it to the environment. -/
theorem effective?_nil_right (environment : Layer) :
    effective? environment [] = environment.raw? := by
  funext setting
  exact Option.or_none

/-- Raw values that convert make up settings. -/
theorem ofRaw_of_perm_complete {layer : Layer} {address timeout permission id : Raw}
    {s : Settings} (seed : UInt32)
    (same : layer.Perm (Layer.complete address timeout permission id))
    (addressText : address.text? = some s.listenAddress)
    (timeoutNumber : timeout.natural? = some s.requestTimeoutSecs)
    (permissionTruth : permission.bool? = some s.corsPermissive)
    (idText : id.text? = some s.coordinatorId) : ofRaw seed layer.raw? = .ok s := by
  have unambiguous : (layer.map Prod.fst).Nodup :=
    (same.map Prod.fst).nodup_iff.mpr (Layer.nodup_complete address timeout permission id)
  have held {name : String} {raw : Raw}
      (listed : (name, raw) ∈ Layer.complete address timeout permission id) :
      layer.raw? name = some raw :=
    Layer.raw?_of_mem unambiguous (same.mem_iff.mpr listed)
  have addressHeld : layer.raw? listenAddressName = some address := held (by simp [Layer.complete])
  have timeoutHeld : layer.raw? requestTimeoutSecsName = some timeout :=
    held (by simp [Layer.complete])
  have permissionHeld : layer.raw? corsPermissiveName = some permission :=
    held (by simp [Layer.complete])
  have idHeld : layer.raw? coordinatorIdName = some id := held (by simp [Layer.complete])
  simp only [ofRaw, resolve, addressHeld, timeoutHeld, permissionHeld, idHeld, addressText,
    timeoutNumber, permissionTruth, idText]
  rfl

end Settings

/-! ## Files -/

namespace Raw

/-- A number between quotes is a number. -/
theorem natural?_text_decimalText (t : UInt64) :
    (Raw.text (Text.decimalText t.toNat)).natural? = some t := by
  have noWord (words : List String)
      (lettered : ∀ word ∈ words,
        word.toList.any (fun c => c ≠ '-' && !Text.isDecimal c) = true) :
      words.contains (inSmallLetters (Text.decimalText t.toNat)) = false := by
    rw [← Text.integerText_natCast, List.contains_eq_mem, decide_eq_false_iff_not]
    intro isWord
    exact inSmallLetters_integerText_ne (lettered _ isWord) _ rfl
  have digits : decimal? (Text.decimalText t.toNat).toList = some t.toNat := by
    rw [Text.decimalText, String.toList_ofList]
    unfold decimal?
    split
    · next rest isPlus =>
        have plusMem : '+' ∈ Text.decimal t.toNat := by rw [isPlus]; exact List.mem_cons_self
        exact absurd plusMem (Text.not_mem_decimal rfl _)
    · exact Text.decimalValue?_decimal t.toNat
  have fits : t.toNat ≤ greatest := Nat.le_of_lt_succ t.toNat_lt
  have noTrue := noWord trueWords (by decide)
  have noFalse := noWord falseWords (by decide)
  simp only [natural?, noTrue, noFalse, Bool.false_eq_true, if_false, digits, Option.bind_some,
    natural64?, if_pos fits, UInt64.ofNat_toNat]

end Raw

namespace Settings

/-- The entries of the file of some settings. -/
def entries (s : Settings) : List Toml.Entry :=
  [.ofText listenAddressName s.listenAddress (by decide) (by decide),
   .ofText requestTimeoutSecsName (Text.decimalText s.requestTimeoutSecs.toNat) (by decide)
     (by decide),
   .ofBool corsPermissiveName s.corsPermissive (by decide) (by decide),
   .ofText coordinatorIdName s.coordinatorId (by decide) (by decide)]

theorem toFile_eq (s : Settings) :
    s.toFile = String.ofList (s.entries.flatMap Toml.Entry.line) := by
  simp only [toFile, entries, List.flatMap_cons, List.flatMap_nil, List.append_nil,
    List.append_assoc]
  rfl

/-- The file of some settings is a layer that sets everything. -/
theorem fileLayer_toFile (s : Settings) :
    fileLayer (some s.toFile) =
      .ok (.complete (.text s.listenAddress) (.text (Text.decimalText s.requestTimeoutSecs.toNat))
        (.bool s.corsPermissive) (.text s.coordinatorId)) := by
  have distinct : (s.entries.map Toml.Entry.key).Nodup := by
    change [listenAddressName, requestTimeoutSecsName, corsPermissiveName,
      coordinatorIdName].Nodup
    decide
  rw [fileLayer, toFile_eq, Toml.Document.ofText?_lines distinct]
  rfl

/-- Settings are read back from their file, if no variable overrides them. -/
theorem load_toFile (seed : UInt32) (s : Settings) {environment : List (String × String)}
    (silent : ∀ v ∈ environment, settingOfVariable? v.1 = none) :
    load seed (some s.toFile) environment = .ok s := by
  have address : (Raw.text s.listenAddress).text? = some s.listenAddress := rfl
  have timeout := Raw.natural?_text_decimalText s.requestTimeoutSecs
  have permission : (Raw.bool s.corsPermissive).bool? = some s.corsPermissive := rfl
  have id : (Raw.text s.coordinatorId).text? = some s.coordinatorId := rfl
  rw [load_of_fileLayer (fileLayer_toFile s), Layer.ofEnvironment_of_silent silent,
    effective?_nil_left]
  exact ofRaw_of_perm_complete seed (List.Perm.refl _) address timeout permission id

end Settings

end ControlPlane
