import StepFlow.Log
import StepFlow.Fault

/-
  StepFlow.Run.Journal
  ────────────────────
  What happens during a run, event by event.

  The journal holds everything in the order in which it happened: what
  functions note and log, the steps and slots that start, the scopes that open
  and close, the cleanups that are registered and that run.  Some events are
  also shown as trace lines.
-/

namespace StepFlow

/-- What comes of a cleanup: what it notes when it runs, and how it fails, if it does. -/
structure CleanupResult where
  note : Value
  failure : Option String
  deriving DecidableEq, Repr

/-- A cleanup.  It has no access to the context, but it may hold the token of the run and ask
the run to stop. -/
structure Cleanup extends CleanupResult where
  stops : Bool
  deriving DecidableEq, Repr

/-- How a flow function reports what it does. -/
inductive FlowNote where
  /-- A condition chose a branch. -/
  | branchChosen (cond : Bool) (branch : String)
  /-- A loop over items starts. -/
  | loopStarted (items : Nat)
  /-- A conditional loop ended. -/
  | loopEnded (iterations : Nat)
  /-- A failure goes to its handler. -/
  | caught (code : String)
  /-- A reported slot failed. -/
  | slotFailed (slot : String) (error : String)
  /-- An optional slot was not there. -/
  | slotSkipped (slot : String)
  deriving DecidableEq, Repr

/-- What a function may put into the journal. -/
inductive Note where
  /-- A value of the function's choice. -/
  | value (v : Value)
  /-- A log record. -/
  | log (r : LogRecord)
  /-- A report of a flow function. -/
  | flow (n : FlowNote)
  deriving DecidableEq, Repr

/-- How a run ended. -/
inductive RunStatus where
  /-- With a state. -/
  | success
  /-- With a fault. -/
  | failure
  deriving DecidableEq, Repr

namespace RunStatus

/-- The name of a status. -/
def name : RunStatus → String
  | .success => "success"
  | .failure => "failure"

/-- The exit code that goes with a status. -/
def exitCode : RunStatus → Nat
  | .success => 0
  | .failure => 1

/-- Read a status from a value: its exact name. -/
def read (v : Value) : Except Mismatch RunStatus := do
  let s ← readChoice [name .success, name .failure] v
  if s = name .success then .ok .success else .ok .failure

end RunStatus

/-- One event of a run. -/
inductive Event where
  /-- A function put something into the journal. -/
  | noted (n : Note)
  /-- The run starts. -/
  | runStarted (steps : Nat)
  /-- The run has its state. -/
  | runCompleted
  /-- The run was cancelled. -/
  | runCancelled
  /-- The run failed. -/
  | runFailed (error : String)
  /-- The run was reported. -/
  | runReported (status : RunStatus)
  /-- A step of a sequence starts. -/
  | stepStarted (index : Nat) (call : String)
  /-- A slot starts. -/
  | slotStarted (slot : String) (steps : Nat)
  /-- A contract was answered by the function it is bound to. -/
  | contractResolved (contract implementation : String)
  /-- A call entered a function. -/
  | entered (id : String)
  /-- A spread had no object to copy. -/
  | spreadSkipped (source : Value)
  /-- The run was asked to stop. -/
  | cancelRequested
  /-- A scope was opened. -/
  | scopeOpened
  /-- A scope was closed; its cleanups run next. -/
  | scopeClosed
  /-- A cleanup was registered. -/
  | deferred (c : Cleanup)
  /-- A cleanup ran. -/
  | cleaned (c : Cleanup)
  /-- The cleanup that just ran failed. -/
  | cleanupFailed (error : String)
  deriving DecidableEq, Repr

/-- An event shown as a line: a level, a message and named fields. -/
structure TraceLine where
  level : LogLevel
  message : String
  fields : State
  deriving DecidableEq, Repr

namespace FlowNote

/-- The line of a flow function's report. -/
def line : FlowNote → TraceLine
  | .branchChosen cond branch =>
      ⟨.trace, "Selected branch", [("cond", .bool cond), ("branch", .str branch)]⟩
  | .loopStarted items => ⟨.trace, "Starting foreach", [("items", .nat items)]⟩
  | .loopEnded iterations => ⟨.trace, "while loop finished", [("iterations", .nat iterations)]⟩
  | .caught code => ⟨.debug, "Handling error in catch slot", [("code", .str code)]⟩
  | .slotFailed slot error =>
      ⟨.debug, "Slot execution failed", [("slot", .str slot), ("error", .str error)]⟩
  | .slotSkipped slot => ⟨.trace, "Optional slot not declared, skipping", [("slot", .str slot)]⟩

end FlowNote

namespace Event

/-- The line of an event, if it is shown. -/
def line? : Event → Option TraceLine
  | .noted (.flow n) => some n.line
  | .noted _ => none
  | .runStarted steps => some ⟨.debug, "Executing compose", [("steps", .nat steps)]⟩
  | .runCompleted => some ⟨.debug, "Compose completed", []⟩
  | .runCancelled => some ⟨.info, "Compose cancelled", []⟩
  | .runFailed error => some ⟨.debug, "Compose failed", [("error", .str error)]⟩
  | .runReported status =>
      some ⟨.info, "Compose run finished", [("status", .str status.name)]⟩
  | .stepStarted index call =>
      some ⟨.debug, "Running step", [("index", .nat index), ("call", .str call)]⟩
  | .slotStarted slot steps =>
      some ⟨.trace, "Running slot", [("slot", .str slot), ("steps", .nat steps)]⟩
  | .contractResolved contract implementation =>
      some ⟨.trace, "Resolved contract binding",
        [("contract", .str contract), ("implementation", .str implementation)]⟩
  | .spreadSkipped source =>
      some ⟨.debug, "Spread source is not an object, skipping", [("source", .str source.text)]⟩
  | .cleanupFailed error => some ⟨.warn, "Scope cleanup failed", [("error", .str error)]⟩
  | .entered _ => none
  | .cancelRequested => none
  | .scopeOpened => none
  | .scopeClosed => none
  | .deferred _ => none
  | .cleaned _ => none

/-- The log record of an event, if it is one. -/
def logRecord? : Event → Option LogRecord
  | .noted (.log r) => some r
  | _ => none

/-- What an event leaves for the caller to see: a function's value, or a cleanup's. -/
def value? : Event → Option Value
  | .noted (.value v) => some v
  | .cleaned c => some c.note
  | _ => none

end Event

end StepFlow
