import ControlPlane.Proofs.Settings.Layering
import ControlPlane.Proofs.Text.Shortest
import ControlPlane.Proofs.Toml.Entry

/-!
# What comes of the sources

Loading fails if the file is unreadable, else if the raw value of some setting does not fit
it.  Otherwise every setting has its converted raw value or its default.
-/

namespace ControlPlane

namespace Settings

/-! ## Single settings -/

/-- What a setting amounts to: its converted raw value, or the default if there is none. -/
inductive Amounts {α : Type} (convert : Raw → Option α) (unset : α) : Option Raw → α → Prop
  | default : Amounts convert unset none unset
  | converted {raw : Raw} {a : α} (fits : convert raw = some a) :
      Amounts convert unset (some raw) a

section

variable {α : Type} {convert : Raw → Option α} {unset a : α} {raw? : Option Raw}

theorem resolve_eq_ok_iff :
    resolve convert unset raw? = .ok a ↔ Amounts convert unset raw? a := by
  cases raw? with
  | none =>
      constructor
      · rintro ⟨⟩
        exact .default
      · rintro ⟨⟩
        rfl
  | some raw =>
      constructor
      · intro resolved
        rw [resolve] at resolved
        split at resolved
        · next fits =>
            cases resolved
            exact .converted fits
        · cases resolved
      · rintro (_ | fits)
        rw [resolve, fits]

theorem resolve_eq_error_iff {e : SettingsFault} :
    resolve convert unset raw? = .error e ↔
      e = .unusableValue ∧ ∃ raw, raw? = some raw ∧ convert raw = none := by
  cases raw? with
  | none => simp [resolve]
  | some raw => cases fits : convert raw <;> simp [resolve, fits, eq_comm]

theorem resolve_cases (convert : Raw → Option α) (unset : α) (raw? : Option Raw) :
    (∃ a, resolve convert unset raw? = .ok a) ∨
      resolve convert unset raw? = .error .unusableValue := by
  cases resolved : resolve convert unset raw? with
  | ok a => exact .inl ⟨a, rfl⟩
  | error e =>
      obtain ⟨rfl, _⟩ := resolve_eq_error_iff.mp resolved
      exact .inr rfl

end

/-! ## All settings -/

section

variable {seed : UInt32} {raw? raw'? : String → Option Raw} {s : Settings}

/-- The names of the settings. -/
def names : List String :=
  ["listen_addr", "request_timeout_secs", "cors_permissive", "coordinator_id"]

/-- Only the raw values of the settings matter. -/
theorem ofRaw_congr (same : ∀ setting ∈ names, raw? setting = raw'? setting) :
    ofRaw seed raw? = ofRaw seed raw'? := by
  have address := same listenAddressName (by decide)
  have timeout := same requestTimeoutSecsName (by decide)
  have permission := same corsPermissiveName (by decide)
  have id := same coordinatorIdName (by decide)
  rw [ofRaw, ofRaw, address, timeout, permission, id]

/-- The settings are made up of what each of them amounts to. -/
theorem ofRaw_eq_ok_iff :
    ofRaw seed raw? = .ok s ↔
      Amounts Raw.text? defaultListenAddress (raw? listenAddressName) s.listenAddress ∧
      Amounts Raw.natural? defaultRequestTimeoutSecs (raw? requestTimeoutSecsName)
        s.requestTimeoutSecs ∧
      Amounts Raw.bool? false (raw? corsPermissiveName) s.corsPermissive ∧
      Amounts Raw.text? (generatedId seed) (raw? coordinatorIdName) s.coordinatorId := by
  obtain ⟨address, timeout, permission, id⟩ := s
  simp only [← resolve_eq_ok_iff, ofRaw, default, bind, Except.bind, pure, Except.pure]
  cases resolve Raw.text? defaultListenAddress (raw? listenAddressName) <;>
  cases resolve Raw.natural? defaultRequestTimeoutSecs (raw? requestTimeoutSecsName) <;>
  cases resolve Raw.bool? false (raw? corsPermissiveName) <;>
  cases resolve Raw.text? (generatedId seed) (raw? coordinatorIdName) <;>
  simp

/-- There are no settings just if some raw value does not fit. -/
theorem ofRaw_eq_error_iff {e : SettingsFault} :
    ofRaw seed raw? = .error e ↔ e = .unusableValue ∧
      ((∃ raw, raw? listenAddressName = some raw ∧ raw.text? = none) ∨
        (∃ raw, raw? requestTimeoutSecsName = some raw ∧ raw.natural? = none) ∨
        (∃ raw, raw? corsPermissiveName = some raw ∧ raw.bool? = none) ∨
        (∃ raw, raw? coordinatorIdName = some raw ∧ raw.text? = none)) := by
  have misfit {α : Type} (convert : Raw → Option α) (unset : α) (name : String) :
      (∃ raw, raw? name = some raw ∧ convert raw = none) ↔
        resolve convert unset (raw? name) = .error .unusableValue := by
    rw [resolve_eq_error_iff, and_iff_right rfl]
  rw [misfit Raw.text? defaultListenAddress, misfit Raw.natural? defaultRequestTimeoutSecs,
    misfit Raw.bool? false, misfit Raw.text? (generatedId seed)]
  simp only [ofRaw, default, bind, Except.bind, pure, Except.pure]
  rcases resolve_cases Raw.text? defaultListenAddress (raw? listenAddressName) with
    ⟨_, address⟩ | address <;>
  rcases resolve_cases Raw.natural? defaultRequestTimeoutSecs (raw? requestTimeoutSecsName) with
    ⟨_, timeout⟩ | timeout <;>
  rcases resolve_cases Raw.bool? false (raw? corsPermissiveName) with
    ⟨_, permission⟩ | permission <;>
  rcases resolve_cases Raw.text? (generatedId seed) (raw? coordinatorIdName) with
    ⟨_, id⟩ | id <;>
  simp [address, timeout, permission, id, eq_comm]

end

/-! ## Generated ids -/

/-- A generated id is a number in eight hexadecimal digits, in small letters. -/
theorem generatedId_eq (seed : UInt32) :
    ∃ digits, generatedId seed = "coord-" ++ String.ofList digits ∧ digits.length = 8 ∧
      (∀ c ∈ digits, c.toLower = c) ∧ Text.Denotes 16 digits seed.toNat := by
  have shortest : Text.IsShortest 16 (Text.hex seed.toNat) seed.toNat :=
    Text.isShortest_toDigits (by decide) (by decide) _
  have short : (Text.hex seed.toNat).length ≤ 8 :=
    (Nat.length_toDigits_le_iff (by decide) (by decide)).mpr
      (Nat.lt_of_lt_of_eq seed.toNat_lt (by decide))
  obtain ⟨_, digits, run, value⟩ := shortest.denotes
  let zeros := 8 - (Text.hex seed.toNat).length
  refine ⟨List.replicate zeros '0' ++ Text.hex seed.toNat, rfl, ?_, ?_, ?_, ?_⟩
  · simp only [List.length_append, List.length_replicate, zeros]
    omega
  · intro c cMem
    rcases List.mem_append.mp cMem with inZeros | inDigits
    · rw [List.eq_of_mem_replicate inZeros]
      rfl
    · exact shortest.small c inDigits
  · exact List.append_ne_nil_of_right_ne_nil _ shortest.denotes.1
  · refine ⟨List.replicate zeros 0 ++ digits, ?_, ?_⟩
    · have front : List.Forall₂ (Text.IsDigit 16) ((List.replicate zeros 0).map Nat.digitChar)
          (List.replicate zeros 0) := by
        apply Text.forall₂_isDigit_map_digitChar
        intro d dMem
        rw [List.eq_of_mem_replicate dMem]
        decide
      rw [List.map_replicate] at front
      exact List.rel_append front run
    · rw [List.reverse_append, List.reverse_replicate, Nat.ofDigits_append_replicate_zero, value]

/-! ## Sources -/

/-- Every setting amounts to what its own effective raw value says. -/
structure LoadedFrom (seed : UInt32) (file : Option String)
    (environment : List (String × String)) (s : Settings) : Prop where
  listenAddress : ∃ raw?, Effective file environment "listen_addr" raw? ∧
    Amounts Raw.text? "0.0.0.0:8000" raw? s.listenAddress
  requestTimeoutSecs : ∃ raw?, Effective file environment "request_timeout_secs" raw? ∧
    Amounts Raw.natural? 30 raw? s.requestTimeoutSecs
  corsPermissive : ∃ raw?, Effective file environment "cors_permissive" raw? ∧
    Amounts Raw.bool? false raw? s.corsPermissive
  coordinatorId : ∃ raw?, Effective file environment "coordinator_id" raw? ∧
    Amounts Raw.text? (generatedId seed) raw? s.coordinatorId

/-- The effective raw value of some setting does not fit it. -/
inductive HasMisfit (file : Option String) (environment : List (String × String)) : Prop
  | listenAddress {raw : Raw} (effective : Effective file environment "listen_addr" (some raw))
      (misfit : raw.text? = none)
  | requestTimeoutSecs {raw : Raw}
      (effective : Effective file environment "request_timeout_secs" (some raw))
      (misfit : raw.natural? = none)
  | corsPermissive {raw : Raw}
      (effective : Effective file environment "cors_permissive" (some raw))
      (misfit : raw.bool? = none)
  | coordinatorId {raw : Raw}
      (effective : Effective file environment "coordinator_id" (some raw))
      (misfit : raw.text? = none)

section

variable {file file' : Option String} {environment environment' : List (String × String)}

theorem Effective.unique {setting : String} {raw? raw'? : Option Raw}
    (plain : PlainSources file environment) (readable : ¬IsUnreadable file)
    (effective : Effective file environment setting raw?)
    (effective' : Effective file environment setting raw'?) : raw? = raw'? := by
  obtain ⟨layer, layered⟩ := exists_fileLayer readable
  exact (effective.effective?_eq plain layered).symm.trans (effective'.effective?_eq plain layered)

theorem load_of_unreadable (seed : UInt32) (environment : List (String × String))
    (unreadable : IsUnreadable file) :
    load seed file environment = .error .unreadableFile := by
  rw [load, fileLayer_of_unreadable unreadable]
  rfl

theorem load_eq_unreadableFile_iff (seed : UInt32) :
    load seed file environment = .error .unreadableFile ↔ IsUnreadable file := by
  refine ⟨fun failed => ?_, load_of_unreadable seed environment⟩
  by_contra readable
  obtain ⟨layer, layered⟩ := exists_fileLayer readable
  rw [load_of_fileLayer layered, ofRaw_eq_error_iff] at failed
  cases failed.1

theorem load_eq_unusableValue_iff (seed : UInt32) (plain : PlainSources file environment) :
    load seed file environment = .error .unusableValue ↔
      ¬IsUnreadable file ∧ HasMisfit file environment := by
  by_cases unreadable : IsUnreadable file
  · rw [load_of_unreadable seed environment unreadable]
    exact iff_of_false (by simp) fun failed => failed.1 unreadable
  obtain ⟨layer, layered⟩ := exists_fileLayer unreadable
  rw [load_of_fileLayer layered, ofRaw_eq_error_iff, and_iff_right rfl, and_iff_right unreadable]
  simp only [effective?_eq_iff plain layered]
  constructor
  · rintro (⟨raw, effective, misfit⟩ | ⟨raw, effective, misfit⟩ | ⟨raw, effective, misfit⟩ |
      ⟨raw, effective, misfit⟩)
    · exact .listenAddress effective misfit
    · exact .requestTimeoutSecs effective misfit
    · exact .corsPermissive effective misfit
    · exact .coordinatorId effective misfit
  · rintro (⟨effective, misfit⟩ | ⟨effective, misfit⟩ | ⟨effective, misfit⟩ | ⟨effective, misfit⟩)
    · exact .inl ⟨_, effective, misfit⟩
    · exact .inr (.inl ⟨_, effective, misfit⟩)
    · exact .inr (.inr (.inl ⟨_, effective, misfit⟩))
    · exact .inr (.inr (.inr ⟨_, effective, misfit⟩))

theorem load_eq_ok_iff (seed : UInt32) (plain : PlainSources file environment) {s : Settings} :
    load seed file environment = .ok s ↔
      ¬IsUnreadable file ∧ LoadedFrom seed file environment s := by
  by_cases unreadable : IsUnreadable file
  · rw [load_of_unreadable seed environment unreadable]
    exact iff_of_false (by simp) fun loaded => loaded.1 unreadable
  obtain ⟨layer, layered⟩ := exists_fileLayer unreadable
  have held (setting : String) : Effective file environment setting
      (effective? (.ofEnvironment environment) layer setting) :=
    (effective?_eq_iff plain layered).mp rfl
  rw [load_of_fileLayer layered, ofRaw_eq_ok_iff, and_iff_right unreadable]
  constructor
  · rintro ⟨address, timeout, permission, id⟩
    exact ⟨⟨_, held _, address⟩, ⟨_, held _, timeout⟩, ⟨_, held _, permission⟩, ⟨_, held _, id⟩⟩
  · rintro ⟨⟨_, isAddress, address⟩, ⟨_, isTimeout, timeout⟩, ⟨_, isPermission, permission⟩,
      ⟨_, isId, id⟩⟩
    rw [← isAddress.effective?_eq plain layered] at address
    rw [← isTimeout.effective?_eq plain layered] at timeout
    rw [← isPermission.effective?_eq plain layered] at permission
    rw [← isId.effective?_eq plain layered] at id
    exact ⟨address, timeout, permission, id⟩

/-- Two pairs of sources have the same effective raw value for a setting. -/
def SameRaw (file : Option String) (environment : List (String × String))
    (file' : Option String) (environment' : List (String × String)) (setting : String) : Prop :=
  ∀ raw?, Effective file environment setting raw? ↔ Effective file' environment' setting raw?

theorem Effective.transfer {setting : String} {raw? : Option Raw}
    (effective : Effective file environment setting raw?)
    (sameVariables : ∀ v, IsVariableOf v.1 setting → (v ∈ environment ↔ v ∈ environment'))
    (sameValue : (∃ v ∈ environment, IsVariableOf v.1 setting) ∨
      listed? file setting = listed? file' setting) :
    Effective file' environment' setting raw? := by
  have stillUnheld (unheld : ∀ v ∈ environment, ¬IsVariableOf v.1 setting) :
      (∀ v ∈ environment', ¬IsVariableOf v.1 setting) ∧
        listed? file setting = listed? file' setting := by
    refine ⟨fun v vMem isVariable => ?_, sameValue.resolve_left ?_⟩
    · exact unheld v ((sameVariables v isVariable).mpr vMem) isVariable
    · rintro ⟨v, vMem, isVariable⟩
      exact unheld v vMem isVariable
  cases effective with
  | @held name text inEnvironment isVariable =>
      exact .held ((sameVariables (name, text) isVariable).mp inEnvironment) isVariable
  | listed unheld found =>
      obtain ⟨unheld', sameListed⟩ := stillUnheld unheld
      exact .listed unheld' (sameListed.symm.trans found)
  | unset unheld unlisted =>
      obtain ⟨unheld', sameListed⟩ := stillUnheld unheld
      exact .unset unheld' (sameListed.symm.trans unlisted)

/-- What the file says of a setting that has a variable does not count, nor do the variables
of other settings. -/
theorem sameRaw_of_variables {setting : String}
    (sameVariables : ∀ v, IsVariableOf v.1 setting → (v ∈ environment ↔ v ∈ environment'))
    (sameValue : (∃ v ∈ environment, IsVariableOf v.1 setting) ∨
      listed? file setting = listed? file' setting) :
    SameRaw file environment file' environment' setting := by
  intro raw?
  refine ⟨fun effective => effective.transfer sameVariables sameValue,
    fun effective => effective.transfer (fun v isVariable => (sameVariables v isVariable).symm) ?_⟩
  refine sameValue.imp ?_ Eq.symm
  rintro ⟨v, vMem, isVariable⟩
  exact ⟨v, (sameVariables v isVariable).mp vMem, isVariable⟩

/-- Settings that amount to the same raw value are the same. -/
theorem SameRaw.eq {α : Type} {setting : String} {convert : Raw → Option α} {unset a a' : α}
    (same : SameRaw file environment file' environment' setting)
    (plain : PlainSources file environment) (readable : ¬IsUnreadable file)
    (first : ∃ raw?, Effective file environment setting raw? ∧ Amounts convert unset raw? a)
    (second : ∃ raw?, Effective file' environment' setting raw? ∧ Amounts convert unset raw? a') :
    a = a' := by
  obtain ⟨raw?, effective, amounts⟩ := first
  obtain ⟨raw'?, effective', amounts'⟩ := second
  obtain rfl := ((same raw'?).mpr effective').unique plain readable effective
  rw [← resolve_eq_ok_iff] at amounts amounts'
  exact Except.ok.inj (amounts.symm.trans amounts')

/-- Sources that say the same of every setting lead to the same. -/
theorem load_congr (seed : UInt32) (plain : PlainSources file environment)
    (plain' : PlainSources file' environment') (readable : ¬IsUnreadable file)
    (readable' : ¬IsUnreadable file')
    (same : ∀ setting ∈ names, SameRaw file environment file' environment' setting) :
    load seed file environment = load seed file' environment' := by
  obtain ⟨layer, layered⟩ := exists_fileLayer readable
  obtain ⟨layer', layered'⟩ := exists_fileLayer readable'
  rw [load_of_fileLayer layered, load_of_fileLayer layered']
  apply ofRaw_congr
  intro setting isName
  rw [effective?_eq_iff plain layered, same setting isName]
  exact (effective?_eq_iff plain' layered').mp rfl

end

/-! ## The merge -/

/-- Every setting has one effective raw value or none.  Loading fails as a load just if the
file is unreadable, and else as a parse just if the effective raw value of some setting
does not fit it; otherwise every setting amounts to what its own raw value says, where the
default of the id is a number in eight hexadecimal digits.  So a setting is the same
wherever its raw value is; and neither foreign names nor what the file says of a setting
that has a variable change anything. -/
theorem settings_are_layered (seed : UInt32) {file : Option String}
    {environment : List (String × String)} (plain : PlainSources file environment) :
    (¬IsUnreadable file → ∀ setting, ∃! raw?, Effective file environment setting raw?) ∧
    ((∃ fault, load seed file environment = .error fault ∧
        fault.message = "Failed to load configuration") ↔ IsUnreadable file) ∧
    ((∃ fault, load seed file environment = .error fault ∧
        fault.message = "Failed to parse configuration") ↔
      ¬IsUnreadable file ∧ HasMisfit file environment) ∧
    (∀ s, load seed file environment = .ok s ↔
      ¬IsUnreadable file ∧ LoadedFrom seed file environment s) ∧
    (∃ digits, generatedId seed = "coord-" ++ String.ofList digits ∧ digits.length = 8 ∧
      (∀ c ∈ digits, c.toLower = c) ∧ Text.Denotes 16 digits seed.toNat) ∧
    (∀ file' environment' s s', PlainSources file' environment' →
      load seed file environment = .ok s → load seed file' environment' = .ok s' →
      (SameRaw file environment file' environment' "listen_addr" →
        s.listenAddress = s'.listenAddress) ∧
      (SameRaw file environment file' environment' "request_timeout_secs" →
        s.requestTimeoutSecs = s'.requestTimeoutSecs) ∧
      (SameRaw file environment file' environment' "cors_permissive" →
        s.corsPermissive = s'.corsPermissive) ∧
      (SameRaw file environment file' environment' "coordinator_id" →
        s.coordinatorId = s'.coordinatorId)) ∧
    (∀ file' environment', PlainSources file' environment' →
      ¬IsUnreadable file → ¬IsUnreadable file' →
      (∀ setting ∈ names,
        (∀ v, IsVariableOf v.1 setting → (v ∈ environment ↔ v ∈ environment')) ∧
        ((∃ v ∈ environment, IsVariableOf v.1 setting) ∨
          listed? file setting = listed? file' setting)) →
      load seed file environment = load seed file' environment') := by
  refine ⟨?unique, ?unreadable, ?unusable, fun s => load_eq_ok_iff seed plain,
    generatedId_eq seed, ?single, ?others⟩
  case unique =>
    intro readable setting
    obtain ⟨raw?, effective⟩ := exists_effective file environment setting
    exact ⟨raw?, effective, fun raw'? effective' => effective'.unique plain readable effective⟩
  case unreadable =>
    rw [← load_eq_unreadableFile_iff seed]
    constructor
    · rintro ⟨fault, failed, worded⟩
      cases fault with
      | unreadableFile => exact failed
      | unusableValue => exact absurd worded (by decide)
    · exact fun failed => ⟨_, failed, rfl⟩
  case unusable =>
    rw [← load_eq_unusableValue_iff seed plain]
    constructor
    · rintro ⟨fault, failed, worded⟩
      cases fault with
      | unreadableFile => exact absurd worded (by decide)
      | unusableValue => exact failed
    · exact fun failed => ⟨_, failed, rfl⟩
  case single =>
    intro file' environment' s s' plain' loaded loaded'
    obtain ⟨readable, loadedFrom⟩ := (load_eq_ok_iff seed plain).mp loaded
    obtain ⟨_, loadedFrom'⟩ := (load_eq_ok_iff seed plain').mp loaded'
    refine ⟨fun same => ?_, fun same => ?_, fun same => ?_, fun same => ?_⟩
    · exact same.eq plain readable loadedFrom.listenAddress loadedFrom'.listenAddress
    · exact same.eq plain readable loadedFrom.requestTimeoutSecs loadedFrom'.requestTimeoutSecs
    · exact same.eq plain readable loadedFrom.corsPermissive loadedFrom'.corsPermissive
    · exact same.eq plain readable loadedFrom.coordinatorId loadedFrom'.coordinatorId
  case others =>
    intro file' environment' plain' readable readable' same
    apply load_congr seed plain plain' readable readable'
    intro setting isName
    obtain ⟨sameVariables, sameValue⟩ := same setting isName
    exact sameRaw_of_variables sameVariables sameValue

/-- A file whose timeout is no number. -/
def strangeFile : String :=
  "request_timeout_secs = \"soon\"\ncolour = \"red\"\n"

/-- Variables, one of which overrides the timeout. -/
def overridingEnvironment : List (String × String) :=
  [("PATH", "/bin"), ("ssi_Request_Timeout_Secs", "7"), ("SSI_COLOUR", "blue")]

theorem ofText?_strangeFile :
    Toml.Document.ofText? strangeFile =
      some ⟨.explicit, [("request_timeout_secs", .text "soon"), ("colour", .text "red")]⟩ := by
  let entries : List Toml.Entry :=
    [.ofText "request_timeout_secs" "soon" (by decide) (by decide),
     .ofText "colour" "red" (by decide) (by decide)]
  have spelled : strangeFile = String.ofList (entries.flatMap Toml.Entry.line) := by decide
  have distinct : (entries.map Toml.Entry.key).Nodup := by decide
  rw [spelled, Toml.Document.ofText?_lines distinct]
  rfl

theorem plainSources_strangeFile {environment : List (String × String)}
    (plain : environment.all (fun v => v.1.toList.all fun c => c.isAlphanum || c == '_') = true)
    (distinct : environment.Pairwise fun v w =>
      Raw.inSmallLetters v.1 ≠ Raw.inSmallLetters w.1) :
    PlainSources (some strangeFile) environment := by
  refine ⟨?_, ?_, ?_⟩
  · rintro _ document ⟨⟩ read
    obtain rfl := Option.some.inj (read.symm.trans ofText?_strangeFile)
    simp
  · rintro v vMem - c cMem
    simpa using List.all_eq_true.mp (List.all_eq_true.mp plain v vMem) c cMem
  · exact distinct.imp fun differs setting isV isW => differs (isV.trans isW.symm)

/-- A file whose timeout is no number is of use if a variable overrides the timeout. -/
theorem settings_are_layered_of_strangeFile :
    PlainSources (some strangeFile) overridingEnvironment ∧ PlainSources (some strangeFile) [] ∧
      load 0 (some strangeFile) overridingEnvironment =
        .ok ⟨"0.0.0.0:8000", 7, false, "coord-00000000"⟩ ∧
      ∃ fault, load 0 (some strangeFile) [] = .error fault ∧
        fault.message = "Failed to parse configuration" := by
  have plain : PlainSources (some strangeFile) overridingEnvironment :=
    plainSources_strangeFile (by decide) (by decide)
  have bare : PlainSources (some strangeFile) [] := plainSources_strangeFile (by decide) (by decide)
  have readable : ¬IsUnreadable (some strangeFile) := by
    rintro ⟨_, ⟨⟩, unread⟩
    rw [ofText?_strangeFile] at unread
    cases unread
  have unset {setting : String}
      (unheld : ∀ v ∈ overridingEnvironment, ¬IsVariableOf v.1 setting)
      (unlisted : ["request_timeout_secs", "colour"].contains setting = false) :
      Effective (some strangeFile) overridingEnvironment setting none := by
    refine .unset unheld ?_
    rw [listed?_of_ofText? ofText?_strangeFile, Toml.Table.get?, List.lookup_eq_none_iff]
    simpa using unlisted
  have overridden : Effective (some strangeFile) overridingEnvironment "request_timeout_secs"
      (some (.ofVariable "7")) :=
    .held (show ("ssi_Request_Timeout_Secs", "7") ∈ overridingEnvironment by decide) (by decide)
  have strange : Effective (some strangeFile) [] "request_timeout_secs"
      (some (.ofToml (.text "soon"))) := by
    refine .listed (by simp) ?_
    rw [listed?_of_ofText? ofText?_strangeFile]
    rfl
  obtain ⟨-, -, -, loads, -⟩ := settings_are_layered 0 plain
  obtain ⟨-, -, fails, -⟩ := settings_are_layered 0 bare
  refine ⟨plain, bare, (loads _).mpr ⟨readable, ?_⟩,
    fails.mpr ⟨readable, .requestTimeoutSecs strange (by decide)⟩⟩
  have seven : (Raw.ofVariable "7").natural? = some 7 := by decide
  exact ⟨⟨_, unset (by decide) (by decide), .default⟩, ⟨_, overridden, .converted seven⟩,
    ⟨_, unset (by decide) (by decide), .default⟩, ⟨_, unset (by decide) (by decide), .default⟩⟩

end Settings

end ControlPlane
