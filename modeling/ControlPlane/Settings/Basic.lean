import ControlPlane.Settings.Layer

/-!
# Settings

The gateway has four settings.  Each is taken from the environment if that holds
it, else from the file if that does, else it has its default; so a value that is
overridden is never looked at.  Names that are no settings are ignored.
-/

namespace ControlPlane

/-- What can be set. -/
structure Settings where
  listenAddress : String
  /-- The longest time that one request may take. -/
  requestTimeoutSecs : UInt64
  /-- May pages of any origin use the API? -/
  corsPermissive : Bool
  coordinatorId : String
deriving Repr, DecidableEq

/-- Why there are no settings. -/
inductive SettingsFault
  /-- The file is not TOML. -/
  | unreadableFile
  /-- A raw value does not fit its setting. -/
  | unusableValue
deriving Repr, DecidableEq

/-- The wording of a fault. -/
def SettingsFault.message : SettingsFault → String
  | unreadableFile => "Failed to load configuration"
  | unusableValue => "Failed to parse configuration"

namespace Settings

/-! ## Names and defaults -/

/-- The name of the listen address. -/
def listenAddressName : String := "listen_addr"

/-- The name of the request timeout. -/
def requestTimeoutSecsName : String := "request_timeout_secs"

/-- The name of the permission for pages of any origin. -/
def corsPermissiveName : String := "cors_permissive"

/-- The name of the coordinator's id. -/
def coordinatorIdName : String := "coordinator_id"

/-- Where the gateway listens by default. -/
def defaultListenAddress : String := "0.0.0.0:8000"

/-- How long a request may take by default. -/
def defaultRequestTimeoutSecs : UInt64 := 30

/-- What a generated id begins with. -/
def idPrefix : String := "coord-"

/-- The id that a number stands for: eight hexadecimal digits. -/
def generatedId (seed : UInt32) : String :=
  let digits := Text.hex seed.toNat
  idPrefix ++ String.ofList (List.replicate (8 - digits.length) '0' ++ digits)

/-- The settings if nothing is set. -/
def default (seed : UInt32) : Settings where
  listenAddress := defaultListenAddress
  requestTimeoutSecs := defaultRequestTimeoutSecs
  corsPermissive := false
  coordinatorId := generatedId seed

/-! ## Loading -/

/-- The layer of a file, if there is a file. -/
def fileLayer : Option String → Except SettingsFault Layer
  | none => .ok []
  | some text =>
      match Toml.Document.ofText? text with
      | some document => .ok (.ofDocument document)
      | none => .error .unreadableFile

/-- The raw value of a setting in the first of two layers that holds it. -/
def effective? (environment file : Layer) (setting : String) : Option Raw :=
  (environment.raw? setting).or (file.raw? setting)

/-- The value of a setting, given its raw value if it has one. -/
def resolve (convert : Raw → Option α) (unset : α) : Option Raw → Except SettingsFault α
  | none => .ok unset
  | some raw =>
      match convert raw with
      | some value => .ok value
      | none => .error .unusableValue

/-- The settings that raw values amount to. -/
def ofRaw (seed : UInt32) (raw? : String → Option Raw) : Except SettingsFault Settings := do
  let unset := default seed
  return {
    listenAddress := ← resolve Raw.text? unset.listenAddress (raw? listenAddressName)
    requestTimeoutSecs := ←
      resolve Raw.natural? unset.requestTimeoutSecs (raw? requestTimeoutSecsName)
    corsPermissive := ← resolve Raw.bool? unset.corsPermissive (raw? corsPermissiveName)
    coordinatorId := ← resolve Raw.text? unset.coordinatorId (raw? coordinatorIdName) }

/-- Loads the settings from a file, if there is one, and from the variables of
the environment. -/
def load (seed : UInt32) (file : Option String) (environment : List (String × String)) :
    Except SettingsFault Settings := do
  let file ← fileLayer file
  ofRaw seed (effective? (.ofEnvironment environment) file)

/-! ## Writing -/

/-- The variables that set everything. -/
def toVariables (s : Settings) : List (String × String) :=
  [("SSI_LISTEN_ADDR", s.listenAddress),
   ("SSI_REQUEST_TIMEOUT_SECS", Text.decimalText s.requestTimeoutSecs.toNat),
   ("SSI_CORS_PERMISSIVE", if s.corsPermissive then "true" else "false"),
   ("SSI_COORDINATOR_ID", s.coordinatorId)]

/-- A line of a settings file. -/
def fileLine (name : String) (value : List Char) : List Char :=
  name.toList ++ " = ".toList ++ value ++ ['\n']

/-- The settings as the text of a file.  The timeout is written between quotes,
since integers of a file end at `2 ^ 63`. -/
def toFile (s : Settings) : String :=
  String.ofList <|
    fileLine listenAddressName (Toml.spellText s.listenAddress) ++
    fileLine requestTimeoutSecsName
      (Toml.spellText (Text.decimalText s.requestTimeoutSecs.toNat)) ++
    fileLine corsPermissiveName (if s.corsPermissive then "true".toList else "false".toList) ++
    fileLine coordinatorIdName (Toml.spellText s.coordinatorId)

end Settings

end ControlPlane
