import StepFlow.Flow.Branch
import StepFlow.Flow.Each
import StepFlow.Flow.While
import StepFlow.Flow.Recover
import StepFlow.Registry

/-
  StepFlow.Flow.Basic
  ───────────────────
  The flow functions and the ids they are registered under.
-/

namespace StepFlow.Flow

/-- Raise the signal for the next round. -/
def nextRound : Function := fun _ _ => Action.raise (.signal .next)

/-- Raise the signal to leave the loop. -/
def leaveLoop : Function := fun _ _ => Action.raise (.signal .leave)

/-- Fail once the run was cancelled. -/
def checkAbort : Function := fun _ _ => do
  Action.ensureActive
  return .obj []

/-- The id of `branch`. -/
def ifId : String := "lcod://flow/if@1"
/-- The id of `foreach`. -/
def foreachId : String := "lcod://flow/foreach@1"
/-- The id of `nextRound`. -/
def continueId : String := "lcod://flow/continue@1"
/-- The id of `leaveLoop`. -/
def breakId : String := "lcod://flow/break@1"
/-- The id of `throw`. -/
def throwId : String := "lcod://flow/throw@1"
/-- The id of `protect`. -/
def tryId : String := "lcod://flow/try@1"
/-- The id of `whileLoop`. -/
def whileId : String := "lcod://flow/while@1"
/-- The id of `parallel`. -/
def parallelId : String := "lcod://flow/parallel@1"
/-- The id of `checkAbort`. -/
def checkAbortId : String := "lcod://flow/check_abort@1"

/-- The flow functions by id. -/
def functions : List (String × Function) :=
  [(ifId, branch), (foreachId, foreach), (continueId, nextRound), (breakId, leaveLoop),
    (throwId, throw), (tryId, protect), (whileId, whileLoop), (parallelId, parallel),
    (checkAbortId, checkAbort)]

end StepFlow.Flow

namespace StepFlow

/-- Register functions one after the other. -/
def Registry.registerAll (r : Registry) (functions : List (String × Function)) : Registry :=
  functions.foldl (fun r f => r.register f.1 f.2) r

/-- The registry of the flow functions. -/
def Registry.flow : Registry :=
  Registry.empty.registerAll Flow.functions

end StepFlow
