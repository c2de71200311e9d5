import StepFlow.Path
import StepFlow.Run.Program

/-
  StepFlow.Flow.Each
  ──────────────────
  Running a slot once for each item of a list.

  Every round starts from the state of the step and sees the item and its
  index as slot variables.  `foreach` obeys loop signals and collects what it
  finds; `parallel` gives one result for each task and reports a failure as a
  flow error.
-/

namespace StepFlow.Flow

/-- The slot variables of a round. -/
def itemVars (item : Option Value) (index : Int) : State :=
  (match item with
    | some v => [("item", v)]
    | none => []) ++ [("index", .int index)]

/-- What a path selects from a round, null counting as nothing. -/
def collect (path : String) (state vars : State) : Option Value :=
  (Roots.resolve ⟨state, vars⟩ path).bind Value.nonNull?

/-- The result of a loop. -/
def results (found : List Value) : Value :=
  .obj [("results", .arr found)]

/-! ## §1. For each item -/

/-- The items that an input stands for: nothing for null, a value that is no list once. -/
def itemsOf : Option Value → List Value
  | none => []
  | some .null => []
  | some (.arr items) => items
  | some v => [v]

/-- What the items come from: `list` if it is there, else `stream`. -/
def itemSource (input : State) : Option Value :=
  if Dict.contains input "list" then Dict.get? input "list" else Dict.get? input "stream"

/-- What a round that ended normally adds to the results. -/
def found (site : CallSite) (item : Value) (state vars : State) : List Value :=
  match site.collect? with
  | some path => (collect path state vars).toList
  | none => [item]

/-- Run the body for each item, in order; `acc` holds the results so far, last one first. -/
def eachItem (site : CallSite) : Nat → List Value → (acc : List Value) → Action (List Value)
  | _, [], acc => return acc.reverse
  | index, item :: rest, acc => do
      Action.ensureActive
      let vars := itemVars (some item) index
      match ← Action.trySlot bodySlot none (some vars) with
      | .ok state => eachItem site (index + 1) rest ((found site item state vars).reverse ++ acc)
      | .error (.signal .next) => eachItem site (index + 1) rest acc
      | .error (.signal .leave) => return acc.reverse
      | .error (.fault e) => Action.raise (.fault e)

/-- Run the `else` slot in place of a loop without items. -/
def noItems (site : CallSite) : Action (List Value) := do
  let vars := itemVars none (-1)
  let state ← Action.runSlot "else" none (some vars)
  match site.collect? with
  | some path => return (collect path state vars).toList
  | none => return []

/-- Run the body once for each item of a list. -/
def foreach : Function := fun input site => do
  let items := itemsOf (itemSource input)
  if items.isEmpty then return results (← noItems site)
  else
    Action.report (.loopStarted items.length)
    return results (← eachItem site 0 items [])

/-! ## §2. For each task -/

/-- The result of one task: its final state, or what the collect path selects from it. -/
def taskResult (site : CallSite) (state vars : State) : Value :=
  match site.collect? with
  | some path => (Roots.resolve ⟨state, vars⟩ path).getD .null
  | none => .obj state

/-- Run the slot for each task, in order; `acc` holds the results so far, last one first. -/
def eachTask (site : CallSite) : Nat → List Value → (acc : List Value) → Action (List Value)
  | _, [], acc => return acc.reverse
  | index, task :: rest, acc => do
      Action.ensureActive
      let vars := itemVars (some task) index
      match ← Action.trySlot "tasks" none (some vars) with
      | .ok state => eachTask site (index + 1) rest (taskResult site state vars :: acc)
      | .error (.fault e) => Action.raise (.fault (.flow e.toFlowError))
      | .error (.signal s) => Action.raise (.signal s)

/-- The tasks of an input; what is no list has none. -/
def tasksOf (input : State) : List Value :=
  match Dict.get? input "tasks" with
  | some (.arr tasks) => tasks
  | _ => []

/-- Run the `tasks` slot once for each task. -/
def parallel : Function := fun input site => do
  if site.hasSlot "tasks" then return results (← eachTask site 0 (tasksOf input) [])
  else return results []

end StepFlow.Flow
