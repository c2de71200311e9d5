import StepFlow.Run.Context

/-
  StepFlow.Run.Program
  ────────────────────
  The language in which functions are written.

  A function acts on a run only by requests: it asks for a nested run, a call,
  a scope, and so on, and goes on from the answer.  A program is the tree of
  everything a function may ask, by the answers it gets.  Loops that have no
  bound known in advance are a construct of the language, so that a program
  itself is always a finite description.
-/

namespace StepFlow

/-- Where a function was called: the slots and slot variables of the step, and its collect
path. -/
structure CallSite where
  slots : SlotMap
  vars : State
  collectPath : Option String
  deriving DecidableEq

namespace CallSite

/-- A call that no step made. -/
def bare : CallSite := ⟨[], [], none⟩

/-- Whether the step has at least one step in the slot. -/
def hasSlot (site : CallSite) (name : String) : Bool :=
  SlotMap.has site.slots name

/-- The collect path, a blank one counting as missing. -/
def collect? (site : CallSite) : Option String :=
  site.collectPath.filter fun path => !Text.isBlankText path

end CallSite

/-- What a function may ask of the run. -/
inductive Request where
  /-- Call a function. -/
  | call (id : String) (input : State) (site : CallSite)
  /-- Call a function even though the run was cancelled. -/
  | invoke (id : String) (input : State) (site : CallSite)
  /-- Run a slot of the current step, from the given state and slot variables or the step's. -/
  | runSlot (name : String) (state vars : Option State)
  /-- Run steps as a nested sequence of the current step. -/
  | runChildren (steps : List Step) (state vars : Option State)
  /-- Run steps by themselves. -/
  | runSteps (steps : List Step) (state vars : State)
  /-- Open a scope. -/
  | openScope
  /-- Close the innermost scope. -/
  | closeScope
  /-- How many scopes are open? -/
  | depth
  /-- Register a cleanup: what comes of it, and whether it asks the run to stop. -/
  | defer (result : CleanupResult) (stops : Bool := false)
  /-- Ask the run to stop. -/
  | cancel
  /-- Was the run asked to stop? -/
  | isCancelled
  /-- Wait until the run is asked to stop. -/
  | awaitCancel
  /-- Which records are logged? -/
  | logLevel
  /-- Is a function registered? -/
  | isRegistered (id : String)
  /-- Put something into the journal. -/
  | note (n : Note)

/-- The answer to a request. -/
abbrev Request.Reply : Request → Type
  | .call .. => Outcome Value
  | .invoke .. => Outcome Value
  | .runSlot .. => Outcome State
  | .runChildren .. => Outcome State
  | .runSteps .. => Outcome State
  | .openScope => Unit
  | .closeScope => Unit
  | .depth => Nat
  | .defer .. => Unit
  | .cancel => Unit
  | .isCancelled => Bool
  | .awaitCancel => Unit
  | .logLevel => LogLevel
  | .isRegistered _ => Bool
  | .note _ => Unit

/-- A program that ends with a result of the given type. -/
inductive Program : Type → Type 1 where
  /-- End. -/
  | done {α : Type} (a : α) : Program α
  /-- Ask, and go on from the answer. -/
  | ask {α : Type} (r : Request) (next : r.Reply → Program α) : Program α
  /-- Run a part in a scope of its own, which is closed when the part ends. -/
  | inScope {α β : Type} (body : Program β) (next : β → Program α) : Program α
  /-- Repeat rounds, each from where the one before it left off, until one of them ends. -/
  | rounds {α β σ : Type} (round : σ → Program (σ ⊕ β)) (first : σ) (next : β → Program α) :
      Program α

namespace Program

/-- Go on with the result of a program. -/
def bind {α β : Type} : Program α → (α → Program β) → Program β
  | .done a, f => f a
  | .ask r next, f => .ask r fun x => (next x).bind f
  | .inScope body next, f => .inScope body fun x => (next x).bind f
  | .rounds round first next, f => .rounds round first fun x => (next x).bind f

instance : Monad Program where
  pure := .done
  bind := .bind

end Program

/-- A program that may also end with an interrupt. -/
abbrev Action := ExceptT Interrupt Program

namespace Action

variable {α β σ : Type}

/-- Ask, and take the answer. -/
def ask (r : Request) : Action r.Reply :=
  ExceptT.lift (.ask r .done)

/-- End with an interrupt. -/
def raise (i : Interrupt) : Action α :=
  ExceptT.mk (.done (.error i))

/-- Take an outcome's result, or end with its interrupt. -/
def ofOutcome : Outcome α → Action α
  | .ok a => pure a
  | .error i => raise i

/-- Run a slot of the current step and take its outcome. -/
def trySlot (name : String) (state vars : Option State) : Action (Outcome State) :=
  ask (.runSlot name state vars)

/-- Run a slot of the current step and take its final state. -/
def runSlot (name : String) (state vars : Option State) : Action State := do
  ofOutcome (← trySlot name state vars)

/-- Go on unless the run was cancelled. -/
def ensureActive : Action Unit := do
  if ← ask .isCancelled then raise (.fault .cancelled)

/-- Report what a flow function does. -/
def report (n : FlowNote) : Action Unit :=
  ask (.note (.flow n))

/-- Run a part in a scope of its own and take its outcome. -/
def inScope (body : Action β) : Action (Outcome β) :=
  ExceptT.lift (.inScope body.run .done)

/-- How a round ends the loop or goes on. -/
def roundEnd : Outcome (σ ⊕ β) → σ ⊕ Outcome β
  | .ok (.inl s) => .inl s
  | .ok (.inr b) => .inr (.ok b)
  | .error i => .inr (.error i)

/-- Repeat rounds until one of them ends the loop or is interrupted. -/
def rounds (round : σ → Action (σ ⊕ β)) (first : σ) : Action β :=
  ExceptT.mk (.rounds (fun s => (round s).run.bind fun r => .done (roundEnd r)) first .done)

end Action

/-- A function: what it does with an input at a call site. -/
abbrev Function := State → CallSite → Action Value

end StepFlow
