import StepFlow.Path
import StepFlow.Projection.Spread

/-
  StepFlow.Projection.Input
  ─────────────────────────
  What a step gets: its input bindings read against state and slot variables.

  An expression is resolved member by member.  A path is replaced by what it
  leads to; a step definition, and a member named `bindings`, is data and stays
  as it is; an optional entry that leads nowhere disappears.  Spreads come
  first, so that a keyed entry wins over a spread key.
-/

namespace StepFlow

/-- The text that stands for the whole state. -/
def stateRef : String := "__lcod_state__"

/-- The text that stands for a step's result, which is absent on input. -/
def resultRef : String := "__lcod_result__"

/-- The member that is never resolved. -/
def verbatimKey : String := "bindings"

/-- Whether a value is an optional entry. -/
def Value.isOptionalWrapper : Value → Bool
  | .obj members => StepFlow.isOptionalWrapper members
  | _ => false

namespace Roots

/-- What a text stands for. -/
def resolveText (r : Roots) (s : String) : Option Value :=
  if s = stateRef then some (.obj r.state)
  else if s = resultRef then none
  else if Path.isPath s then r.resolve s
  else some (.str s)

mutual
/-- What an expression stands for; absent when it leads nowhere. -/
def eval (r : Roots) : Value → Option Value
  | .str s => r.resolveText s
  | .arr items => some (.arr (r.evalItems items))
  | .obj members =>
      if isOptionalWrapper members then r.evalWrapped members
      else if (Value.obj members).isStepDefinition then some (.obj members)
      else some (.obj (r.evalMembers members))
  | v => some v
/-- What the expression inside an optional entry stands for. -/
def evalWrapped (r : Roots) : List (String × Value) → Option Value
  | [] => some .null
  | (key, v) :: rest => if key = "value" then r.eval v else r.evalWrapped rest
/-- The items of a list; what is absent becomes null. -/
def evalItems (r : Roots) : List Value → List Value
  | [] => []
  | v :: rest =>
      (if v.isStepDefinition then v else (r.eval v).getD .null) :: r.evalItems rest
/-- The members of an object; an optional entry that is absent is left out, whatever else is
absent becomes null. -/
def evalMembers (r : Roots) : List (String × Value) → List (String × Value)
  | [] => []
  | (key, v) :: rest =>
      if key = verbatimKey ∨ v.isStepDefinition then (key, v) :: r.evalMembers rest
      else match r.eval v with
        | some w => (key, w) :: r.evalMembers rest
        | none =>
            if v.isOptionalWrapper then r.evalMembers rest
            else (key, .null) :: r.evalMembers rest
end

/-- The first member named `value` is the expression inside; without one it is null. -/
theorem evalWrapped_eq (r : Roots) (members : List (String × Value)) :
    r.evalWrapped members = r.eval ((Dict.get? members "value").getD .null) := by
  induction members with
  | nil => rfl
  | cons member rest ih =>
      obtain ⟨key, v⟩ := member
      rw [evalWrapped, Dict.get?]
      split
      · rfl
      · exact ih

end Roots

/-- Write a keyed entry: its value, or null if it is absent and required. -/
def Binding.write (b : Binding) (key : String) (found : Option Value) (target : State) : State :=
  match found with
  | some v => Dict.insert target key v
  | none => if b.isOptional then target else Dict.insert target key .null

namespace Bindings

/-- The members that the spreads contribute, in order. -/
def spreadInput (b : Bindings) (r : Roots) : State :=
  b.spreads.foldl (fun target s => s.merge (r.eval s.source) target) []

/-- The input that the bindings give: spreads first, then the entries. -/
def input (b : Bindings) (r : Roots) : State :=
  b.entries.foldl (fun target e => e.2.write e.1 (r.eval e.2.expr) target) (b.spreadInput r)

/-- The sources of the spreads that had no object to copy. -/
def skippedInput (b : Bindings) (r : Roots) : List Value :=
  (b.spreads.filter fun s => !Spread.isSpreadable (r.eval s.source)).map Spread.source

end Bindings

end StepFlow
