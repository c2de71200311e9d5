import StepFlow.Run.Program

/-
  StepFlow.Flow.Recover
  ─────────────────────
  Raising structured failures and recovering from them.

  The protected slot runs first; a failure of it goes to the `catch` slot if
  there is one; the `finally` slot runs last.  A signal or a failure that was
  not caught is raised again after `finally`, and an interrupt of `finally`
  itself comes before both.
-/

namespace StepFlow.Flow

/-- Raise a flow error made from the input. -/
def throw : Function := fun input _ =>
  let code := (State.nonBlank? input "code").getD "flow_throw"
  let message := (State.nonBlank? input "message").getD "Flow throw"
  Action.raise (.flow code message ((Dict.get? input "data").bind Value.nonNull?))

/-- How a protected slot ended. -/
inductive Settled where
  /-- With a state. -/
  | done (state : State)
  /-- With a loop signal. -/
  | signalled (s : Signal)
  /-- With a failure, in its structured form. -/
  | failed (e : FlowError)
  deriving DecidableEq

namespace Settled

/-- How an outcome settles; cancellation is a failure like any other. -/
def ofOutcome : Outcome State → Settled
  | .ok state => .done state
  | .error (.signal s) => .signalled s
  | .error (.fault e) => .failed e.toFlowError

/-- The failure, if it is one. -/
def error? : Settled → Option FlowError
  | .failed e => some e
  | _ => none

/-- The result, with what `finally` wrote into it, or the interrupt to raise again. -/
def conclude (s : Settled) (last : State) : Outcome Value :=
  match s with
  | .done state => .ok (.obj (Dict.insertAll state last))
  | .signalled s => .error (.signal s)
  | .failed e => .error (.fault (.flow e))

end Settled

/-- The slot variables of a phase. -/
def phaseVars (phase : String) (error : Option FlowError) : State :=
  ("phase", .str phase) ::
    match error with
    | some e => [("error", e.toValue)]
    | none => []

/-- Run a phase and settle its outcome. -/
def runPhase (slot phase : String) (error : Option FlowError) : Action Settled := do
  return Settled.ofOutcome (← Action.trySlot slot none (some (phaseVars phase error)))

/-- Hand a failure to the `catch` slot, if there is one. -/
def handle (site : CallSite) : Settled → Action Settled
  | .failed e =>
      if site.hasSlot "catch" then do
        Action.report (.caught e.code)
        runPhase "catch" "catch" (some e)
      else return .failed e
  | s => return s

/-- Run the children, hand a failure to `catch`, and run `finally` in any case. -/
def protect : Function := fun _ site => do
  let settled ← handle site (← runPhase childrenSlot "try" none)
  let last ←
    if site.hasSlot "finally" then
      Action.runSlot "finally" none (some (phaseVars "finally" settled.error?))
    else pure []
  Action.ofOutcome (settled.conclude last)

end StepFlow.Flow
