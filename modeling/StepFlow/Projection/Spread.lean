import StepFlow.Document.Bindings

/-
  StepFlow.Projection.Spread
  ──────────────────────────
  Copying the members of an object into a dictionary.
-/

namespace StepFlow.Spread

/-- Copy the picked keys.  Each one is taken out of the payload, so a key that is picked
twice is missing the second time; what is missing becomes null, or is left alone if the
spread is optional. -/
def pickInto (optional : Bool) : List String → State → State → State
  | [], _, target => target
  | key :: keys, payload, target =>
      match Dict.get? payload key with
      | some v => pickInto optional keys (Dict.erase payload key) (Dict.insert target key v)
      | none => pickInto optional keys payload
          (if optional then target else Dict.insert target key .null)

/-- Copy an object's members as the spread says. -/
def mergeInto (s : Spread) (payload target : State) : State :=
  match s.pick with
  | some keys => pickInto s.optional keys payload target
  | none => Dict.insertAll target payload

/-- Copy from a payload that may be absent or no object, in which case nothing happens. -/
def merge (s : Spread) (payload : Option Value) (target : State) : State :=
  match payload with
  | some (.obj members) => s.mergeInto members target
  | _ => target

/-- Whether a payload is an object that can be spread. -/
def isSpreadable : Option Value → Bool
  | some (.obj _) => true
  | _ => false

end StepFlow.Spread
