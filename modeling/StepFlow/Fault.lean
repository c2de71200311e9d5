import StepFlow.Value

/-
  StepFlow.Fault
  ──────────────
  How a call can end without a value.

  A loop signal travels to the nearest loop and is not a failure.  A fault is
  a failure; one kind of it, the flow error, is raised on purpose and carries a
  code, a message and perhaps data.
-/

namespace StepFlow

/-- What a loop is told from inside its body. -/
inductive Signal where
  /-- Go on with the next round. -/
  | next
  /-- Leave the loop. -/
  | leave
  deriving DecidableEq, Repr

/-- The word for a signal. -/
def Signal.text : Signal → String
  | .next => "continue"
  | .leave => "break"

/-- A structured failure. -/
structure FlowError where
  code : String
  message : String
  data : Option Value
  deriving DecidableEq, Repr

/-- A flow error as a value. -/
def FlowError.toValue (e : FlowError) : Value :=
  .obj ([("code", .str e.code), ("message", .str e.message)] ++
    match e.data with
    | some data => [("data", data)]
    | none => [])

/-- A failure. -/
inductive Fault where
  /-- Neither the id nor what it is bound to is registered. -/
  | functionNotRegistered (id : String)
  /-- The run was cancelled. -/
  | cancelled
  /-- A structured failure. -/
  | flow (e : FlowError)
  /-- A malformed binding map. -/
  | invalidBinding (text : String)
  /-- A function refused its input. -/
  | invalidInput (text : String)
  /-- A nested run was asked for outside a step. -/
  | runnerUnavailable (name : String)
  /-- A signal left every loop. -/
  | unhandledSignal (s : Signal)
  /-- A malformed document. -/
  | parse (text : String)
  /-- Malformed JSON, or JSON of the wrong shape. -/
  | json (text : String)
  /-- Malformed YAML. -/
  | yaml (text : String)
  /-- A failure that a function reports in its own words. -/
  | other (text : String)
  deriving DecidableEq, Repr

namespace Fault

/-- What a fault says. -/
def message : Fault → String
  | .functionNotRegistered id => "Function not registered: " ++ id
  | .cancelled => "Execution cancelled"
  | .flow e => e.message
  | .invalidBinding text => "Invalid binding: " ++ text
  | .invalidInput text => "Invalid input: " ++ text
  | .runnerUnavailable name => name ++ " is unavailable in this context"
  | .unhandledSignal s => "Flow signal '" ++ s.text ++ "' escaped its enclosing loop"
  | .parse text => "Compose parse error: " ++ text
  | .json text => "JSON error: " ++ text
  | .yaml text => "YAML error: " ++ text
  | .other text => text

/-- The code of faults that carry none of their own. -/
def unexpectedCode : String := "unexpected_error"

/-- The code under which a fault is reported. -/
def code : Fault → String
  | .flow e => e.code
  | .functionNotRegistered _ => "function_not_registered"
  | .cancelled => "cancelled"
  | _ => unexpectedCode

/-- Whether the fault is the cancellation of the run. -/
def isCancelled : Fault → Bool
  | .cancelled => true
  | _ => false

/-- The structured form of a fault.  A flow error stays as it is. -/
def toFlowError : Fault → FlowError
  | .flow e => e
  | e =>
      let text := if Text.isBlankText e.message then "Unexpected error" else e.message
      ⟨unexpectedCode, text, none⟩

end Fault

/-- How a call ends when it gives no value. -/
inductive Interrupt where
  /-- A loop signal. -/
  | signal (s : Signal)
  /-- A failure. -/
  | fault (e : Fault)
  deriving DecidableEq, Repr

namespace Interrupt

/-- What an interrupt says. -/
def message : Interrupt → String
  | .signal s => "flow signal: " ++ s.text
  | .fault e => e.message

/-- An interrupt that no loop will take is a fault. -/
def toFault : Interrupt → Fault
  | .signal s => .unhandledSignal s
  | .fault e => e

/-- The interrupt of a flow error. -/
def flow (code message : String) (data : Option Value) : Interrupt :=
  .fault (.flow ⟨code, message, data⟩)

end Interrupt

/-- What a call gives: a result, or the interrupt that ended it. -/
abbrev Outcome (α : Type) := Except Interrupt α

instance {α : Type} [DecidableEq α] : DecidableEq (Outcome α) := fun
  | .ok a, .ok b => decidable_of_iff (a = b) (by simp)
  | .error a, .error b => decidable_of_iff (a = b) (by simp)
  | .ok _, .error _ => isFalse (by simp)
  | .error _, .ok _ => isFalse (by simp)

end StepFlow
