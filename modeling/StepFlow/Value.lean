import StepFlow.Dict
import StepFlow.Number.Basic
import StepFlow.Text.Blank

/-
  StepFlow.Value
  ──────────────
  The dynamic values that documents, states and functions exchange.

  A value is null, a truth value, a number, a text, a list, or an object whose
  members keep their order.  A state is the member list of an object.
-/

namespace StepFlow

/-- A dynamic value. -/
inductive Value where
  /-- No value. -/
  | null
  /-- A truth value. -/
  | bool (b : Bool)
  /-- A number. -/
  | num (n : Number)
  /-- A text. -/
  | str (s : String)
  /-- A list. -/
  | arr (items : List Value)
  /-- An object: its members, in order. -/
  | obj (members : List (String × Value))
  deriving Inhabited, Repr

/-- The members of an object; what a run threads from step to step. -/
abbrev State := Dict Value

namespace Value

/-! ## §1. Building -/

/-- The value of an integer. -/
def int (i : Int) : Value := .num (.int i)

/-- The value of a count. -/
def nat (n : Nat) : Value := .num (.int n)

/-! ## §2. Reading -/

/-- The members, if the value is an object. -/
def object? : Value → Option State
  | .obj members => some members
  | _ => none

/-- The text, if the value is one. -/
def text? : Value → Option String
  | .str s => some s
  | _ => none

/-- Whether the value is null. -/
def isNull : Value → Bool
  | .null => true
  | _ => false

/-- The value itself, unless it is null. -/
def nonNull? : Value → Option Value
  | .null => none
  | v => some v

/-- The member `key`, if the value is an object that has it. -/
def member? (v : Value) (key : String) : Option Value :=
  v.object?.bind fun members => Dict.get? members key

/-- What counts as true in a loop condition: everything but null, false, zero and
what is empty. -/
def isTruthy : Value → Bool
  | .null => false
  | .bool b => b
  | .num n => !n.isZero
  | .str s => !s.isEmpty
  | .arr items => !items.isEmpty
  | .obj members => !members.isEmpty

/-- The name of the value's type. -/
def typeName : Value → String
  | .null => "null"
  | .bool _ => "boolean"
  | .num _ => "number"
  | .str _ => "string"
  | .arr _ => "array"
  | .obj _ => "object"

/-- A step definition is an object whose `call` is a text that is not blank. -/
def isStepDefinition (v : Value) : Bool :=
  match v.member? "call" with
  | some (.str call) => !Text.isBlankText call
  | _ => false

end Value

namespace State

/-- The text under `key`, a blank one counting as missing. -/
def nonBlank? (s : State) (key : String) : Option String :=
  match Dict.get? s key with
  | some (.str text) => if Text.isBlankText text then none else some text
  | _ => none

end State

/-! ## §3. Equality -/

mutual
/-- Whether two values are the same, members compared in order. -/
def Value.same : Value → Value → Bool
  | .null, .null => true
  | .bool a, .bool b => a == b
  | .num a, .num b => a == b
  | .str a, .str b => a == b
  | .arr a, .arr b => Value.sameItems a b
  | .obj a, .obj b => Value.sameMembers a b
  | _, _ => false
/-- Whether two lists hold the same values. -/
def Value.sameItems : List Value → List Value → Bool
  | [], [] => true
  | a :: as, b :: bs => Value.same a b && Value.sameItems as bs
  | _, _ => false
/-- Whether two member lists are the same. -/
def Value.sameMembers : List (String × Value) → List (String × Value) → Bool
  | [], [] => true
  | (k, a) :: as, (l, b) :: bs => k == l && Value.same a b && Value.sameMembers as bs
  | _, _ => false
end

mutual
/-- `same` decides equality. -/
theorem Value.same_iff (a b : Value) : a.same b = true ↔ a = b := by
  cases a <;> cases b <;>
    simp [Value.same, Value.sameItems_iff, Value.sameMembers_iff]
/-- `sameItems` decides equality. -/
theorem Value.sameItems_iff (as bs : List Value) : Value.sameItems as bs = true ↔ as = bs := by
  match as, bs with
  | [], [] => simp [Value.sameItems]
  | [], _ :: _ => simp [Value.sameItems]
  | _ :: _, [] => simp [Value.sameItems]
  | a :: as, b :: bs =>
    simp [Value.sameItems, Value.same_iff a b, Value.sameItems_iff as bs]
/-- `sameMembers` decides equality. -/
theorem Value.sameMembers_iff (as bs : List (String × Value)) :
    Value.sameMembers as bs = true ↔ as = bs := by
  match as, bs with
  | [], [] => simp [Value.sameMembers]
  | [], _ :: _ => simp [Value.sameMembers]
  | _ :: _, [] => simp [Value.sameMembers]
  | (k, a) :: as, (l, b) :: bs =>
    simp [Value.sameMembers, Value.same_iff a b, Value.sameMembers_iff as bs]
end

instance : DecidableEq Value := fun a b =>
  decidable_of_iff (a.same b = true) (Value.same_iff a b)

end StepFlow
