import StepFlow.Projection.Spread
import StepFlow.Run.Program
import StepFlow.Text.Quoted

/-
  StepFlow.Registry
  ─────────────────
  Functions by id, and what contracts are bound to.

  A function may declare its outputs, and is then held to them.  An id that
  names a contract and is not registered itself is answered by the function it
  is bound to; that function's own binding is not followed.
-/

namespace StepFlow

/-- How the ids of contracts start. -/
def contractStart : String := "lcod://contract/"

/-- Whether an id names a contract. -/
def isContract (id : String) : Bool :=
  contractStart.toList.isPrefixOf id.toList

/-- A registered function. -/
structure Entry where
  /-- The id it was registered under. -/
  id : String
  /-- The keys of its result; no keys means no restriction. -/
  outputs : List String
  function : Function

/-- Hold an object result to the declared outputs: they are taken out of it one by one, null
for what is not there. -/
def Entry.restrict (e : Entry) (result : Value) : Value :=
  if e.outputs.isEmpty then result
  else match result with
    | .obj members => .obj (Spread.pickInto false e.outputs members [])
    | other => other

/-- A registry. -/
structure Registry where
  functions : Dict Entry
  bindings : Dict String

/-- A function that was found, and the contract that led to it. -/
structure Resolution where
  entry : Entry
  contract : Option String

namespace Registry

/-- Nothing registered, nothing bound. -/
def empty : Registry := ⟨[], []⟩

/-- Register a function that declares its outputs, in place of any other under this id. -/
def registerWithOutputs (r : Registry) (id : String) (outputs : List String)
    (function : Function) : Registry :=
  { r with functions := Dict.insert r.functions id ⟨id, outputs, function⟩ }

/-- Register a function. -/
def register (r : Registry) (id : String) (function : Function) : Registry :=
  r.registerWithOutputs id [] function

/-- Take a function out. -/
def unregister (r : Registry) (id : String) : Registry :=
  { r with functions := Dict.erase r.functions id }

/-- Replace what contracts are bound to.  Of several entries for a contract the last one counts. -/
def setBindings (r : Registry) (bindings : List (String × String)) : Registry :=
  { r with bindings := Dict.ofEntries bindings }

/-- The function registered under an id. -/
def get? (r : Registry) (id : String) : Option Entry :=
  Dict.get? r.functions id

/-- Whether a function is registered under an id. -/
def has (r : Registry) (id : String) : Bool :=
  Dict.contains r.functions id

/-- What a contract is bound to. -/
def binding? (r : Registry) (contract : String) : Option String :=
  Dict.get? r.bindings contract

/-- The registered ids, in increasing order. -/
def list (r : Registry) : List String :=
  (Dict.keys r.functions).mergeSort fun a b => decide (a ≤ b)

/-- The function that answers an id. -/
def resolve (r : Registry) (id : String) : Except Fault Resolution :=
  match r.get? id with
  | some entry => .ok ⟨entry, none⟩
  | none =>
      if isContract id then
        match (r.binding? id).bind r.get? with
        | some entry => .ok ⟨entry, some id⟩
        | none => .error (.functionNotRegistered id)
      else .error (.functionNotRegistered id)

/-! ## Descriptions -/

/-- A list of texts, each between quotes. -/
def describeList (names : List String) : String :=
  "[" ++ String.intercalate ", " (names.map Text.quoted) ++ "]"

/-- A registry in words. -/
def describe (r : Registry) : String :=
  let bindings := r.bindings.map fun b => Text.quoted b.1 ++ ": " ++ Text.quoted b.2
  "Registry \x7b functions: " ++ describeList r.list ++ ", bindings: \x7b" ++
    String.intercalate ", " bindings ++ "\x7d \x7d"

end Registry

/-- An entry in words. -/
def Entry.describe (e : Entry) : String :=
  "Entry \x7b id: " ++ Text.quoted e.id ++ ", outputs: " ++ Registry.describeList e.outputs ++ " \x7d"

end StepFlow
