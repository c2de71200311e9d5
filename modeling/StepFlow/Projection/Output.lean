import StepFlow.Projection.Input

/-
  StepFlow.Projection.Output
  ──────────────────────────
  What a step gives back: its result merged into the state.

  Spreads apply to object results only.  An entry reads the whole result, a
  place in it, or one of its members, by the alias it is bound to.
-/

namespace StepFlow

/-- What a spread copies from a result. -/
def Spread.payload (s : Spread) (result : Value) : Option Value :=
  match s.source with
  | .str path => if Path.isStatePath path then Path.selectRelative result path else some result
  | _ => some result

/-- What an alias reads from a result. -/
def readAlias (expr result : Value) : Option Value :=
  match expr with
  | .str name =>
      if name = "$" ∨ name = resultRef then some result
      else if Path.isStatePath name then Path.selectRelative result name
      else result.member? name
  | _ => none

namespace Bindings

/-- The state after the spreads. -/
def spreadOutput (b : Bindings) (result : Value) (state : State) : State :=
  match result with
  | .obj _ => b.spreads.foldl (fun target s => s.merge (s.payload result) target) state
  | _ => state

/-- The state after a result was merged into it: spreads first, then the entries. -/
def output (b : Bindings) (result : Value) (state : State) : State :=
  b.entries.foldl (fun target e => e.2.write e.1 (readAlias e.2.expr result) target)
    (b.spreadOutput result state)

/-- The sources of the spreads that had no object to copy. -/
def skippedOutput (b : Bindings) (result : Value) : List Value :=
  match result with
  | .obj _ => (b.spreads.filter fun s => !Spread.isSpreadable (s.payload result)).map Spread.source
  | _ => []

end Bindings

end StepFlow
