import StepFlow.Run.Program

/-
  StepFlow.Flow.Branch
  ────────────────────
  Choosing between two slots.
-/

namespace StepFlow.Flow

/-- Whether a condition holds: it is exactly `true`. -/
def holds (input : State) : Bool :=
  match Dict.get? input "cond" with
  | some (.bool true) => true
  | _ => false

/-- The slot that a condition chooses. -/
def branchName (cond : Bool) : String :=
  if cond then "then" else "else"

/-- Run the slot that the condition chooses; its final state is the result. -/
def branch : Function := fun input _ => do
  let cond := holds input
  Action.report (.branchChosen cond (branchName cond))
  return .obj (← Action.runSlot (branchName cond) none none)

end StepFlow.Flow
