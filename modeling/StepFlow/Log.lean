import StepFlow.Document.Mismatch

/-
  StepFlow.Log
  ────────────
  Log levels and log records.
-/

namespace StepFlow

/-- How severe a record is, from the least to the most. -/
inductive LogLevel where
  /-- The finest detail. -/
  | trace
  /-- Detail for finding mistakes. -/
  | debug
  /-- Ordinary information. -/
  | info
  /-- Something to look at. -/
  | warn
  /-- A failure. -/
  | error
  /-- A failure that ends everything. -/
  | fatal
  deriving DecidableEq, Repr, Inhabited

namespace LogLevel

/-- The place of a level in the order of severity. -/
def rank : LogLevel → Nat
  | .trace => 0
  | .debug => 1
  | .info => 2
  | .warn => 3
  | .error => 4
  | .fatal => 5

instance : LE LogLevel := ⟨fun a b => a.rank ≤ b.rank⟩

instance (a b : LogLevel) : Decidable (a ≤ b) :=
  inferInstanceAs (Decidable (a.rank ≤ b.rank))

/-- The name of a level. -/
def name : LogLevel → String
  | .trace => "trace"
  | .debug => "debug"
  | .info => "info"
  | .warn => "warn"
  | .error => "error"
  | .fatal => "fatal"

/-- All levels, in order. -/
def all : List LogLevel := [.trace, .debug, .info, .warn, .error, .fatal]

/-- The level with the given name. -/
def ofName? (s : String) : Option LogLevel :=
  all.find? fun level => level.name == s

/-- The level that a text asks for: a name in any ASCII case with blanks around it.  `warning`
is another word for `warn`, and no name at all means `fatal`.  Otherwise the name that was
looked for comes back. -/
def ofText (s : String) : Except String LogLevel :=
  let wanted := Text.asciiLower (Text.trim s)
  if wanted = "" then .ok .fatal
  else if wanted = "warning" then .ok .warn
  else match ofName? wanted with
    | some level => .ok level
    | none => .error wanted

/-- What is said of a name that is no level. -/
def unsupported (wanted : String) : String :=
  "Unsupported log level: " ++ wanted

/-- Read a level from a value: its exact name. -/
def read (v : Value) : Except Mismatch LogLevel := do
  let s ← readChoice (all.map name) v
  match ofName? s with
  | some level => .ok level
  | none => .error (.unknownName s (all.map name))

end LogLevel

/-- What a log call emits. -/
structure LogRecord where
  level : LogLevel
  message : String
  /-- The JSON text of the data. -/
  data : String
  /-- The JSON text of the tags. -/
  tags : String
  deriving DecidableEq, Repr

end StepFlow
