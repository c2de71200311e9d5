import StepFlow.Builtin
import StepFlow.Run.Engine
import StepFlow.Settings.Basic

/-
  StepFlow.Session
  ────────────────
  Running a document from start to end on a context of its own.

  The context is closed when the steps have ended, so every cleanup of the run
  has been carried out when its outcome is there.  A signal that no loop took is
  a fault.
-/

namespace StepFlow

/-- What a run leaves behind. -/
structure Report where
  /-- The final state, or what went wrong. -/
  outcome : Except Fault State
  /-- Everything that happened, in order. -/
  journal : List Event

namespace Session

/-- The event that tells how a run ended. -/
def endEvent : Except Fault State → Event
  | .ok _ => .runCompleted
  | .error e => if e.isCancelled then .runCancelled else .runFailed e.message

/-- How many steps, calls and nested runs start in a millisecond. -/
def startsPerMs : Nat := 4000

/-- The context of a run: settings, and whether it is cancelled before it starts. -/
def context (settings : Settings) (cancelled : Bool) : Context :=
  .start settings.logLevel cancelled (settings.timeoutMs.map (startsPerMs * ·))

/-- The outcome of a sequence as the outcome of a run. -/
def outcomeOf : Outcome State → Except Fault State
  | .ok state => .ok state
  | .error i => .error i.toFault

/-- Run steps within a limit; `none` when the limit was reached. -/
def executeWithin (limit : Nat) (registry : Registry) (settings : Settings) (cancelled : Bool)
    (steps : List Step) (initial : State) : Option Report :=
  let start := (context settings cancelled).record (.runStarted steps.length)
  match Engine.runWithin registry limit steps initial [] start with
  | none => none
  | some (result, c) =>
      let outcome := outcomeOf result
      some ⟨outcome, (c.record (endEvent outcome)).close.journal.reverse⟩

/-- A limit that no run lives long enough to reach. -/
def limit : Nat := twoPow 60

/-- Run steps. -/
def execute (registry : Registry) (settings : Settings) (cancelled : Bool) (steps : List Step)
    (initial : State) : Report :=
  (executeWithin limit registry settings cancelled steps initial).getD
    ⟨.error .cancelled, [.runStarted steps.length, .runCancelled]⟩

/-! ## Reported runs -/

/-- The status of an outcome. -/
def statusOf : Except Fault State → RunStatus
  | .ok _ => .success
  | .error _ => .failure

/-- The structured form under which a run reports a fault: the fault's own code counts. -/
def reportedError (e : Fault) : FlowError :=
  { e.toFlowError with code := e.code }

/-- Run steps and report how that went. -/
def run (registry : Registry) (settings : Settings) (steps : List Step) (initial : State) :
    Report :=
  let report := execute registry settings false steps initial
  { report with journal := report.journal ++ [.runReported (statusOf report.outcome)] }

end Session

end StepFlow
