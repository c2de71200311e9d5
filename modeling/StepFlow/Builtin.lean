import StepFlow.Flow.Basic

/-
  StepFlow.Builtin
  ────────────────
  The functions that every run has beside the flow functions: logging, setting
  values, and running a slot with its outcome reported as data.
-/

namespace StepFlow.Builtin

/-! ## §1. Setting and logging -/

/-- Give the input back. -/
def set : Function := fun input _ => return .obj input

/-- The level that a log call asks for. -/
def levelText : Option Value → Except Mismatch (Option String)
  | none => .ok none
  | some .null => .ok none
  | some v => (readText v).map some

/-- The level of a record: what the text asks for, `info` if it asks for none that exists. -/
def levelOf (text : Option String) : LogLevel :=
  match text.map LogLevel.ofText with
  | some (.ok level) => level
  | _ => .info

/-- The message of a record: a text as it is, anything else as JSON. -/
def messageOf : Option Value → String
  | some (.str s) => s
  | some .null => ""
  | some v => v.text
  | none => ""

/-- The record that a log call asks for. -/
def logRecord (level : LogLevel) (input : State) : LogRecord :=
  ⟨level, messageOf (Dict.get? input "message"), ((Dict.get? input "data").getD .null).text,
    ((Dict.get? input "tags").getD .null).text⟩

/-- Log a record, unless it is less severe than the run's level. -/
def log : Function := fun input _ => do
  match levelText (Dict.get? input "level") with
  | .error e => Action.raise (.fault (.json e.message))
  | .ok text =>
      let level := levelOf text
      if (← Action.ask .logLevel) ≤ level then
        Action.ask (.note (.log (logRecord level input)))
      return .obj []

/-! ## §2. Running a slot as data -/

/-- The code of a slot that failed. -/
def slotFailedCode : String := "slot_execution_failed"

/-- The report on a slot that ended with a state. -/
def slotDone (state : State) : Value :=
  .obj [("ran", .bool true), ("result", .obj state)]

/-- The report on a slot that failed. -/
def slotFailed (e : Fault) : Value :=
  .obj [("ran", .bool true),
    ("error", .obj [("message", .str e.message), ("code", .str slotFailedCode)])]

/-- The report on a slot that was not run. -/
def slotSkipped : Value :=
  .obj [("ran", .bool false), ("result", .null)]

/-- The object under a key. -/
def objectAt (input : State) (key : String) : Option State :=
  (Dict.get? input key).bind Value.object?

/-- Whether the slot may be missing. -/
def isOptional (input : State) : Bool :=
  match Dict.get? input "optional" with
  | some (.bool true) => true
  | _ => false

/-- Run one of the step's slots and report how it ended.  Loop signals are passed on. -/
def runSlot : Function := fun input site => do
  match State.nonBlank? input "slot" with
  | none => Action.raise (.fault (.invalidInput "slot must be provided"))
  | some slot =>
      if isOptional input && !site.hasSlot slot then
        Action.report (.slotSkipped slot)
        return slotSkipped
      else
        match ← Action.trySlot slot (objectAt input "state") (objectAt input "slotVars") with
        | .ok state => return slotDone state
        | .error (.fault e) =>
            Action.report (.slotFailed slot e.message)
            return slotFailed e
        | .error (.signal s) => Action.raise (.signal s)

/-! ## §3. The standard registry -/

/-- The id of `runSlot`. -/
def runSlotId : String := "lcod://contract/compose/run_slot@1"
/-- The id of `log`. -/
def logId : String := "lcod://kernel/log@1"
/-- The id of `set`. -/
def setId : String := "lcod://impl/set@1"

end StepFlow.Builtin

namespace StepFlow

/-- The registry that a run has unless it is given another. -/
def Registry.standard : Registry :=
  Registry.flow.registerAll
    [(Builtin.runSlotId, Builtin.runSlot), (Builtin.logId, Builtin.log),
      (Builtin.setId, Builtin.set)]

end StepFlow
