import StepFlow.Projection.Output
import StepFlow.Registry

/-
  StepFlow.Run.Engine
  ───────────────────
  Running steps and the programs of functions.

  A run transforms the context and gives a result.  Since a function may loop
  for ever and may call itself, a run is given a limit: how deep calls may be
  nested and how many rounds a loop may take.  A run that would go beyond the
  limit has no result (`none`); a larger limit never changes a result that is
  there.
-/

namespace StepFlow

/-- A computation on the context; `none` when the limit was reached. -/
abbrev Run := StateT Context Option

namespace Run

variable {α β σ : Type}

/-- The limit was reached. -/
def exhausted : Run α := fun _ => none

/-- Add an event to the journal. -/
def record (e : Event) : Run Unit :=
  modify fun c => c.record e

/-- Start a part, which takes time; once the run was cancelled do nothing but fail. -/
def unlessCancelled (body : Run (Outcome α)) : Run (Outcome α) := do
  modify Context.tick
  if (← get).cancelled then return .error (.fault .cancelled) else body

/-- Run a part in a scope of its own: whatever it leaves open is closed afterwards. -/
def inScope (body : Run α) : Run α := do
  let depth := (← get).depth
  modify Context.openScope
  let a ← body
  modify fun c => c.closeTo depth
  return a

/-- Repeat rounds until one of them ends, at most `limit` times. -/
def rounds (round : σ → Run (σ ⊕ β)) : Nat → σ → Run β
  | 0, _ => exhausted
  | limit + 1, s => do
      match ← round s with
      | .inl s => rounds round limit s
      | .inr b => return b

end Run

/-! ## §1. Steps -/

/-- How a call is carried out. -/
abbrev Caller := String → State → CallSite → Run (Outcome Value)

/-- How a function is entered. -/
abbrev Invoker := Entry → State → CallSite → Run (Outcome Value)

namespace Engine

/-- Run one step: build its input, call its function in a scope and a frame of its own, and
merge the result into the state. -/
def runStep (caller : Caller) (vars : State) (index : Nat) (step : Step) (state : State) :
    Run (Outcome State) :=
  Run.unlessCancelled do
    let roots : Roots := ⟨state, vars⟩
    Run.record (.stepStarted index step.call)
    modify fun c => c.recordAll ((step.inputs.skippedInput roots).map .spreadSkipped)
    modify fun c => c.pushFrame ⟨step.slotMap, state, vars⟩
    let result ← Run.inScope
      (caller step.call (step.inputs.input roots) ⟨step.slotMap, vars, step.collectPath⟩)
    match (← get).frames with
    | [] => return .error (.fault (.runnerUnavailable "run_steps"))
    | frame :: _ =>
        modify Context.popFrame
        match result with
        | .error i => return .error i
        | .ok v =>
            modify fun c => c.recordAll ((step.outputs.skippedOutput v).map .spreadSkipped)
            return .ok (step.outputs.output v frame.state)

/-- Run steps one after the other, the first of them under the given index. -/
def runStepsFrom (caller : Caller) (vars : State) : Nat → List Step → State → Run (Outcome State)
  | _, [], state => return .ok state
  | index, step :: rest, state => do
      match ← runStep caller vars index step state with
      | .ok state => runStepsFrom caller vars (index + 1) rest state
      | .error i => return .error i

/-- Run a sequence. -/
def runSteps (caller : Caller) (steps : List Step) (state vars : State) : Run (Outcome State) :=
  runStepsFrom caller vars 0 steps state

/-! ## §2. Nested runs -/

/-- Run a sequence inside the current step. -/
def runChildren (caller : Caller) (steps : List Step) (state vars : Option State) :
    Run (Outcome State) :=
  Run.unlessCancelled do
    match (← get).frames with
    | [] => return .error (.fault (.runnerUnavailable "run_children"))
    | frame :: _ =>
        Run.inScope (runSteps caller steps (state.getD frame.state) (vars.getD frame.vars))

/-- Run a slot of the current step; a slot that is not there is an empty sequence. -/
def runSlot (caller : Caller) (name : String) (state vars : Option State) :
    Run (Outcome State) :=
  Run.unlessCancelled do
    match (← get).frames with
    | [] => return .error (.fault (.runnerUnavailable "run_slot"))
    | frame :: _ =>
        let steps := (SlotMap.resolve frame.slots name).getD []
        Run.record (.slotStarted name steps.length)
        Run.inScope (runSteps caller steps (state.getD frame.state) (vars.getD frame.vars))

/-! ## §3. Calls -/

variable (registry : Registry)

/-- Find the function that answers an id and enter it. -/
def invoke (invoker : Invoker) (id : String) (input : State) (site : CallSite) :
    Run (Outcome Value) :=
  match registry.resolve id with
  | .error e => return .error (.fault e)
  | .ok found => do
      match found.contract with
      | some contract => Run.record (.contractResolved contract found.entry.id)
      | none => pure ()
      invoker found.entry input site

/-- Find the function that answers an id and enter it, unless the run was cancelled. -/
def call (invoker : Invoker) (id : String) (input : State) (site : CallSite) :
    Run (Outcome Value) :=
  Run.unlessCancelled do
    invoke registry
      (fun entry input site => do
        Run.record (.entered entry.id)
        invoker entry input site)
      id input site

/-- Carry out a request. -/
def answer (invoker : Invoker) : (r : Request) → Run r.Reply
  | .call id input site => call registry invoker id input site
  | .invoke id input site => invoke registry invoker id input site
  | .runSlot name state vars => runSlot (call registry invoker) name state vars
  | .runChildren steps state vars => runChildren (call registry invoker) steps state vars
  | .runSteps steps state vars => runSteps (call registry invoker) steps state vars
  | .openScope => modify Context.openScope
  | .closeScope => modify Context.closeScope
  | .depth => return (← get).depth
  | .defer result stops => modify fun c => c.defer ⟨result, stops⟩
  | .cancel => modify Context.cancel
  | .isCancelled => return (← get).cancelled
  | .awaitCancel => fun c => c.awaitCancel.map fun c => ((), c)
  | .logLevel => return (← get).logLevel
  | .isRegistered id => return registry.has id
  | .note n => Run.record (.noted n)

/-! ## §4. Programs -/

/-- Run a program: requests are carried out by `answer`, and a loop takes at most `limit`
rounds. -/
def perform (answer : (r : Request) → Run r.Reply) (limit : Nat) :
    {α : Type} → Program α → Run α
  | _, .done a => return a
  | _, .ask r next => do
      let x ← answer r
      perform answer limit (next x)
  | _, .inScope body next => do
      let b ← Run.inScope (perform answer limit body)
      perform answer limit (next b)
  | _, .rounds round first next => do
      let b ← Run.rounds (fun s => perform answer limit (round s)) limit first
      perform answer limit (next b)

/-- Enter a function: run its program and hold the result to the declared outputs. -/
def enter : Nat → Invoker
  | 0, _, _, _ => Run.exhausted
  | limit + 1, entry, input, site => do
      let result ← perform (answer registry (enter limit)) limit (entry.function input site).run
      return result.map entry.restrict

/-- Call a function, within a limit. -/
def callWithin (limit : Nat) : Caller :=
  call registry (enter registry limit)

/-- Run a sequence, within a limit. -/
def runWithin (limit : Nat) (steps : List Step) (state vars : State) : Run (Outcome State) :=
  runSteps (callWithin registry limit) steps state vars

/-- Run an action, within a limit. -/
def performWithin {α : Type} (limit : Nat) (action : Action α) : Run (Outcome α) :=
  perform (answer registry (enter registry limit)) limit action.run

end Engine

end StepFlow
