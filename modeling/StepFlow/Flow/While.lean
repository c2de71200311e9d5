import StepFlow.Run.Program

/-
  StepFlow.Flow.While
  ───────────────────
  Looping over a state as long as a condition slot says so.

  Each round runs the condition slot on the loop's state, then the body on the
  same state; the body's final state is the next round's.  The condition slot
  may also replace the state.  A limit on the rounds only cuts the loop.
-/

namespace StepFlow.Flow

/-- The state that a loop starts from. -/
def loopState : Option Value → Outcome State
  | none => .ok []
  | some .null => .ok []
  | some (.obj members) => .ok members
  | some v => .error (.flow "flow_while_invalid_state" "flow/while state must be an object"
      (some (.obj [("type", .str v.typeName)])))

/-- A limit that is no whole number. -/
def badLimit (message : String) (v : Value) : Interrupt :=
  .flow "flow_while_invalid_max_iterations" message (some (.obj [("value", v)]))

/-- The limit on the rounds: a whole number as a double holds it, at most 64 bits.  Zero and
what is below it set no limit. -/
def roundLimit : Option Value → Outcome (Option Nat)
  | none => .ok none
  | some .null => .ok none
  | some (.num n) =>
      let x := n.toBinary64
      if x.isZero || x.isNegative then .ok none
      else if x.isWhole then .ok (some (min x.floor (twoPow 64 - 1)))
      else .error (badLimit "maxIterations must be an integer" (.num n))
  | some v => .error (badLimit "maxIterations must be numeric" v)

/-- The slot variables of a round. -/
def loopVars (index : Int) (state : State) : State :=
  [("index", .int index), ("state", .obj state)]

/-- What a condition slot's final state says: whether to go on, and a state to replace the
loop's.  The first of `continue`, `cond` and `value` that is there decides; an empty state
ends the loop. -/
def verdict (output : State) : Outcome (Bool × Option State) :=
  let replacement := match Dict.get? output "state" with
    | some (.obj members) => some members
    | _ => none
  let key := ["continue", "cond", "value"].find? (Dict.contains output)
  match (key.bind (Dict.get? output)).bind Value.nonNull? with
  | some v => .ok (v.isTruthy, replacement)
  | none =>
      if output.isEmpty then .ok (false, replacement)
      else .error (.flow "flow_while_invalid_condition"
        "condition slot must return a boolean or object with cond/value" none)

/-- Where a loop stands: its state, and how many bodies it has started. -/
structure LoopPoint where
  state : State
  iterations : Nat
  deriving DecidableEq

/-- Whether a limit is used up. -/
def limitReached (limit : Option Nat) (iterations : Nat) : Bool :=
  match limit with
  | some max => max ≤ iterations
  | none => false

/-- The interrupt of a loop whose limit is used up. -/
def limitExceeded (limit : Option Nat) : Interrupt :=
  .flow "flow_while_max_iterations"
    ("flow/while exceeded maxIterations (" ++ Number.intText (limit.getD 0) ++ ")") none

/-- One round: where the next one starts, or where the loop ends. -/
def whileRound (limit : Option Nat) (p : LoopPoint) : Action (LoopPoint ⊕ LoopPoint) := do
  Action.ensureActive
  if limitReached limit p.iterations then Action.raise (limitExceeded limit)
  else
    let vars := loopVars p.iterations p.state
    let output ← Action.runSlot "condition" (some p.state) (some vars)
    Action.ensureActive
    let (proceed, replacement) ← Action.ofOutcome (verdict output)
    let state := replacement.getD p.state
    if proceed then
      match ← Action.trySlot bodySlot (some state) (some vars) with
      | .ok next => return .inl ⟨next, p.iterations + 1⟩
      | .error (.signal .next) => return .inl ⟨state, p.iterations + 1⟩
      | .error (.signal .leave) => return .inr ⟨state, p.iterations + 1⟩
      | .error (.fault e) => Action.raise (.fault e)
    else return .inr ⟨state, p.iterations⟩

/-- The state at the end of a loop: the `else` slot runs if no body did. -/
def afterLoop (site : CallSite) (p : LoopPoint) : Action State :=
  if p.iterations = 0 ∧ site.hasSlot "else" then
    Action.runSlot "else" (some p.state) (some (loopVars (-1) p.state))
  else return p.state

/-- Loop as long as the condition slot says so. -/
def whileLoop : Function := fun input site => do
  let state ← Action.ofOutcome (loopState (Dict.get? input "state"))
  let limit ← Action.ofOutcome (roundLimit (Dict.get? input "maxIterations"))
  let last ← Action.rounds (whileRound limit) ⟨state, 0⟩
  let state ← afterLoop site last
  Action.report (.loopEnded last.iterations)
  return .obj [("state", .obj state), ("iterations", .nat last.iterations)]

end StepFlow.Flow
