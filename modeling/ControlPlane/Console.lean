import ControlPlane.Gateway.Basic

/-!
# The console

Options name the settings file and override two of the settings.  A long option
takes its value after an equals sign or as the next argument, a short one as the
next argument.

At a console a request is one line: a method, a target and, after another
blank, a body that is taken for JSON.  A response is a line with its status,
followed by its body if it has one.
-/

/-! ## The command line -/

namespace ControlPlane

/-- What the command line asks for. -/
structure Options where
  configPath : String
  listenAddress : Option String
  requestTimeoutSecs : Option UInt64
deriving Repr, DecidableEq

/-- Why a command line cannot be understood. -/
inductive UsageFault
  | unknownOption (argument : String)
  | missingValue (option : String)
  | notANumber (option value : String)
deriving Repr, DecidableEq

/-- The wording of a fault. -/
def UsageFault.message : UsageFault → String
  | unknownOption argument => "unexpected argument " ++ argument
  | missingValue option => "a value is required for " ++ option
  | notANumber option value => "the value of " ++ option ++ " is not a number: " ++ value

namespace Options

/-- The options of an empty command line. -/
def initial : Options where
  configPath := "config/coordinator.toml"
  listenAddress := none
  requestTimeoutSecs := none

/-- How the command is used. -/
def usage : String :=
  "Usage: control-plane [-c|--config FILE] [-l|--listen ADDRESS] [--request-timeout-secs N]\n" ++
  "Requests are read from standard input, one a line: METHOD TARGET [BODY]."

/-- An argument of the form `--option=value` as two arguments. -/
def splitArgument (argument : String) : List String :=
  if argument.startsWith "--" then
    match Text.cut '=' argument.toList with
    | option :: first :: rest =>
        [String.ofList option, String.ofList (['='].intercalate (first :: rest))]
    | _ => [argument]
  else [argument]

/-- The options with one option set. -/
def set (o : Options) (option value : String) : Except UsageFault Options :=
  if option = "-c" ∨ option = "--config" then .ok { o with configPath := value }
  else if option = "-l" ∨ option = "--listen" then .ok { o with listenAddress := some value }
  else if option = "--request-timeout-secs" then
    match (Raw.decimal? value.toList).bind Raw.natural64? with
    | some n => .ok { o with requestTimeoutSecs := some n }
    | none => .error (.notANumber option value)
  else .error (.unknownOption option)

/-- The options of arguments that come in pairs. -/
def ofPairs (o : Options) : List String → Except UsageFault Options
  | [] => .ok o
  | [option] => do
      let _ ← o.set option "0"
      .error (.missingValue option)
  | option :: value :: rest => do (← o.set option value).ofPairs rest

/-- The options of a command line. -/
def ofArguments (arguments : List String) : Except UsageFault Options :=
  initial.ofPairs (arguments.flatMap splitArgument)

/-- The settings with those of the command line in place of their own. -/
def override (o : Options) (s : Settings) : Settings :=
  { s with
    listenAddress := o.listenAddress.getD s.listenAddress
    requestTimeoutSecs := o.requestTimeoutSecs.getD s.requestTimeoutSecs }

end Options

end ControlPlane

/-! ## Requests and responses on lines -/

namespace ControlPlane.Console

open ControlPlane.Http (Request Response)

/-- The text before the first blank and the text after it. -/
def splitBlank (s : List Char) : List Char × List Char :=
  (s.takeWhile (· ≠ ' '), (s.dropWhile (· ≠ ' ')).drop 1)

/-- The request on a line. -/
def request (line : List Char) : Request :=
  let (method, rest) := splitBlank line
  let (target, body) := splitBlank rest
  { method := String.ofList method
    target := String.ofList target
    fields := if body.isEmpty then [] else [("content-type", "application/json")]
    body := String.ofList body }

/-- The text of a body. -/
def bodyText : Http.Body → Option String
  | .empty => none
  | .json value => some value.render
  | .text content => some content

/-- The lines of a response. -/
def responseLines (r : Response) : List String :=
  Http.statusText r.status :: (bodyText r.body).toList

/-- The line of a log record. -/
def logLine (l : LogRecord) : String :=
  let field (f : String × Json.Value) : String := f.1 ++ "=" ++ f.2.render
  " ".intercalate (l.level.name :: l.message :: l.fields.map field)

end ControlPlane.Console
