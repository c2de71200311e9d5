import StepFlow.Log
import StepFlow.Path
import StepFlow.Settings.EnvFile

/-
  StepFlow.Settings.Basic
  ───────────────────────
  How runs are set up: the log level, the working directory and the time limit.

  Settings come from environment variables.  A file of variables may be loaded
  first; what is set already wins over it.
-/

namespace StepFlow

/-- The settings of a run. -/
structure Settings where
  /-- The least severe records that are logged. -/
  logLevel : LogLevel
  /-- The working directory; the current one if not given. -/
  workingDirectory : Option String
  /-- How many milliseconds a run may take. -/
  timeoutMs : Option Nat
  deriving DecidableEq, Repr

/-- Why settings cannot be had. -/
inductive SettingsError where
  /-- The log level is none. -/
  | badLevel (wanted : String)
  /-- The file of variables is missing or malformed. -/
  | envFile (path : String)
  deriving DecidableEq, Repr

namespace SettingsError

/-- What a settings error says. -/
def message : SettingsError → String
  | .badLevel _ => "Invalid LCOD_LOG_LEVEL"
  | .envFile path => "Failed to load env file: " ++ path

/-- What is behind a settings error, as far as this library knows. -/
def cause? : SettingsError → Option String
  | .badLevel wanted => some (LogLevel.unsupported wanted)
  | .envFile _ => none

end SettingsError

namespace Settings

/-- Only fatal records, the current directory, no time limit. -/
def default : Settings := ⟨.fatal, none, none⟩

/-- The time limit that a text gives in seconds; zero, and what is no number, gives none. -/
def readTimeout (text : Option String) : Option Nat :=
  (text.bind Path.word?).bind fun secs => if secs = 0 then none else some (secs * 1000)

/-- The settings that environment variables ask for. -/
def ofEnvironment (env : Environment) : Except SettingsError Settings := do
  let level ← match Dict.get? env "LCOD_LOG_LEVEL" with
    | none => pure LogLevel.fatal
    | some text => (LogLevel.ofText text).mapError .badLevel
  return ⟨level, Dict.get? env "LCOD_WORKING_DIR", readTimeout (Dict.get? env "LCOD_TIMEOUT_SECS")⟩

/-- The settings after loading a file of variables, if there is one; its mistakes do not
matter. -/
def load (file : Option String) (env : Environment) : Except SettingsError Settings :=
  match file with
  | some text => ofEnvironment (EnvFile.load text env).1
  | none => ofEnvironment env

/-- The settings after loading a file of variables that has to be there and well formed. -/
def loadFrom (path : String) (file : Option String) (env : Environment) :
    Except SettingsError Settings :=
  match file with
  | none => .error (.envFile path)
  | some text =>
      let (env, wellFormed) := EnvFile.load text env
      if wellFormed then ofEnvironment env else .error (.envFile path)

end Settings

end StepFlow
