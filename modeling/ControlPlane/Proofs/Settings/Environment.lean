import ControlPlane.Proofs.Settings.Loading
import ControlPlane.Proofs.Settings.Ordinary

/-!
# Settings in the environment

Variables set what a file sets, but not always to the same: a text arrives as the
spelling of what it is taken for, and a number of more than 63 bits as a double.
-/

namespace ControlPlane

namespace Layer

/-- The variables of some settings set everything. -/
theorem ofEnvironment_toVariables (s : Settings) :
    (ofEnvironment s.toVariables).Perm
      (complete (.ofVariable s.listenAddress)
        (.ofVariable (Text.decimalText s.requestTimeoutSecs.toNat))
        (.bool s.corsPermissive) (.ofVariable s.coordinatorId)) := by
  have address : settingOfVariable? "SSI_LISTEN_ADDR" = some Settings.listenAddressName := by
    decide
  have timeout :
      settingOfVariable? "SSI_REQUEST_TIMEOUT_SECS" = some Settings.requestTimeoutSecsName := by
    decide
  have permission :
      settingOfVariable? "SSI_CORS_PERMISSIVE" = some Settings.corsPermissiveName := by
    decide
  have id : settingOfVariable? "SSI_COORDINATOR_ID" = some Settings.coordinatorIdName := by
    decide
  have truth := (Raw.taken_truth s.corsPermissive).ofVariable_eq
  have reversed : ofEnvironment s.toVariables =
      (complete (.ofVariable s.listenAddress)
        (.ofVariable (Text.decimalText s.requestTimeoutSecs.toNat))
        (.bool s.corsPermissive) (.ofVariable s.coordinatorId)).reverse := by
    simp [ofEnvironment, Settings.toVariables, complete, address, timeout, permission, id, truth]
  rw [reversed]
  exact List.reverse_perm _

end Layer

namespace Settings

/-- What becomes of settings on the way through variables. -/
structure Arrives (sent arrived : Settings) : Prop where
  listenAddress : arrived.listenAddress = sent.listenAddress ↔ Raw.KeptText sent.listenAddress
  requestTimeoutSecs :
    arrived.requestTimeoutSecs = sent.requestTimeoutSecs ↔ Raw.KeptNumber sent.requestTimeoutSecs
  corsPermissive : arrived.corsPermissive = sent.corsPermissive
  coordinatorId : arrived.coordinatorId = sent.coordinatorId ↔ Raw.KeptText sent.coordinatorId

/-- Nothing is lost just if every text and the number are kept. -/
theorem Arrives.eq_iff {sent arrived : Settings} (arrives : Arrives sent arrived) :
    arrived = sent ↔ Raw.KeptText sent.listenAddress ∧ Raw.KeptNumber sent.requestTimeoutSecs ∧
      Raw.KeptText sent.coordinatorId := by
  constructor
  · rintro rfl
    exact ⟨arrives.listenAddress.mp rfl, arrives.requestTimeoutSecs.mp rfl,
      arrives.coordinatorId.mp rfl⟩
  · rintro ⟨address, timeout, id⟩
    have sameAddress := arrives.listenAddress.mpr address
    have sameTimeout := arrives.requestTimeoutSecs.mpr timeout
    have samePermission := arrives.corsPermissive
    have sameId := arrives.coordinatorId.mpr id
    cases arrived
    cases sent
    cases sameAddress
    cases sameTimeout
    cases samePermission
    cases sameId
    rfl

/-- Any settings can be sent through variables, whatever other variables there are. -/
theorem exists_load_variables (seed : UInt32) {s : Settings}
    {environment others : List (String × String)}
    (silent : ∀ v ∈ others, settingOfVariable? v.1 = none)
    (listed : environment.Perm (s.toVariables ++ others)) :
    ∃ arrived, load seed none environment = .ok arrived ∧ Arrives s arrived := by
  obtain ⟨address, addressText⟩ := Raw.exists_text?_ofVariable s.listenAddress
  obtain ⟨timeout, timeoutNumber, timeoutKept⟩ :=
    Raw.natural?_ofVariable_decimalText s.requestTimeoutSecs
  obtain ⟨id, idText⟩ := Raw.exists_text?_ofVariable s.coordinatorId
  have same := Layer.ofEnvironment_perm listed
  rw [Layer.ofEnvironment_append, Layer.ofEnvironment_of_silent silent, List.nil_append] at same
  have textKept {sent arrived : String} (text : (Raw.ofVariable sent).text? = some arrived) :
      arrived = sent ↔ Raw.KeptText sent := by
    rw [← Raw.text?_ofVariable_eq_some_iff, text, Option.some.injEq]
  refine ⟨⟨address, timeout, s.corsPermissive, id⟩, ?_,
    textKept addressText, timeoutKept, rfl, textKept idText⟩
  rw [load_of_fileLayer (rfl : fileLayer none = .ok []), effective?_nil_right]
  exact ofRaw_of_perm_complete seed (same.trans (Layer.ofEnvironment_toVariables s)) addressText
    timeoutNumber rfl idText

/-- A file brings back all settings.  Variables always set something, and they bring back
the settings just if both texts and the number are kept. -/
theorem variables_carry_settings_iff_kept (seed : UInt32) {s : Settings}
    {environment others : List (String × String)}
    (silent : ∀ v ∈ others, settingOfVariable? v.1 = none)
    (listed : environment.Perm (s.toVariables ++ others)) :
    load seed (some s.toFile) others = .ok s ∧
      (∃ arrived, load seed none environment = .ok arrived ∧ Arrives s arrived) ∧
      (load seed none environment = .ok s ↔
        Raw.KeptText s.listenAddress ∧ Raw.KeptNumber s.requestTimeoutSecs ∧
          Raw.KeptText s.coordinatorId) := by
  obtain ⟨arrived, loaded, arrives⟩ := exists_load_variables seed silent listed
  refine ⟨load_toFile seed s silent, ⟨arrived, loaded, arrives⟩, ?_⟩
  rw [loaded, Except.ok.injEq, arrives.eq_iff]

/-- Settings whose timeout needs 64 bits. -/
def patientSettings : Settings :=
  ⟨"127.0.0.1:9100", 9223372036854775808, true, "coord-lab01"⟩

/-- Their variables in another order, and another variable among them. -/
def patientEnvironment : List (String × String) :=
  [("SSI_COORDINATOR_ID", "coord-lab01"), ("PATH", "/usr/bin"), ("SSI_CORS_PERMISSIVE", "true"),
   ("SSI_LISTEN_ADDR", "127.0.0.1:9100"), ("SSI_REQUEST_TIMEOUT_SECS", "9223372036854775808")]

theorem variables_carry_patientSettings :
    (∀ v ∈ [("PATH", "/usr/bin")], settingOfVariable? v.1 = none) ∧
      patientEnvironment.Perm (patientSettings.toVariables ++ [("PATH", "/usr/bin")]) ∧
      load 0 (some patientSettings.toFile) [("PATH", "/usr/bin")] = .ok patientSettings ∧
      load 0 none patientEnvironment = .ok patientSettings := by
  have silent : ∀ v ∈ [("PATH", "/usr/bin")], settingOfVariable? v.1 = none := by decide
  have listed :
      patientEnvironment.Perm (patientSettings.toVariables ++ [("PATH", "/usr/bin")]) := by
    decide
  have address : Raw.KeptText patientSettings.listenAddress :=
    .of_foreign (show ':' ∈ patientSettings.listenAddress.toList by decide) (by decide)
  have timeout : Raw.KeptNumber patientSettings.requestTimeoutSecs := .inr (.inl (by decide))
  have id : Raw.KeptText patientSettings.coordinatorId :=
    .of_foreign (show 'c' ∈ patientSettings.coordinatorId.toList by decide) (by decide)
  obtain ⟨fromFile, _, fromVariables⟩ := variables_carry_settings_iff_kept 0 silent listed
  exact ⟨silent, listed, fromFile, fromVariables.mpr ⟨address, timeout, id⟩⟩

/-- An id that is a number with zeros in front loses them. -/
theorem zeros_in_front_are_lost :
    load 0 none (Settings.mk "127.0.0.1:9100" 5 false "007").toVariables =
        .ok ⟨"127.0.0.1:9100", 5, false, "7"⟩ ∧
      Settings.mk "127.0.0.1:9100" 5 false "7" ≠ ⟨"127.0.0.1:9100", 5, false, "007"⟩ := by
  decide

end Settings

end ControlPlane
