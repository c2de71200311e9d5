import StepFlow.Value

/-
  StepFlow.Path
  ─────────────
  Path expressions such as `$.user.tags.1` and `$slot.item`.

  A path is a root and segments divided by points.  A segment of an object is
  a key, a segment of a list is a decimal index.  Whatever leads nowhere is
  absent; reading a path never fails in any other way.
-/

namespace StepFlow.Path

/-! ## §1. Segments -/

/-- Divide characters at the points; there is always at least one part. -/
def splitDots : List Char → List (List Char)
  | [] => [[]]
  | c :: cs =>
      if c = '.' then [] :: splitDots cs
      else match splitDots cs with
        | [] => [[c]]
        | part :: parts => (c :: part) :: parts

/-- The parts of a text between its points. -/
def segments (s : String) : List String :=
  (splitDots s.toList).map String.ofList

/-- The number that decimal digits spell. -/
def digitsValue (ds : List Char) : Nat :=
  ds.foldl (fun n d => n * 10 + (d.toNat - '0'.toNat)) 0

/-- The number of 64 bits that a text spells: decimal digits, with or without a plus. -/
def word? (s : String) : Option Nat :=
  let ds := match s.toList with
    | '+' :: ds => ds
    | ds => ds
  if ds.isEmpty || !ds.all Char.isDigit then none
  else if digitsValue ds < twoPow 64 then some (digitsValue ds) else none

/-! ## §2. Walking -/

/-- One step into a value. -/
def enter (v : Value) (segment : String) : Option Value :=
  match v with
  | .obj members => Dict.get? members segment
  | .arr items => (word? segment).bind fun i => items[i]?
  | _ => none

/-- Follow segments into a value. -/
def select : Value → List String → Option Value
  | v, [] => some v
  | v, segment :: rest =>
      match enter v segment with
      | some w => select w rest
      | none => none

/-- Follow a path that starts at the value itself: `$`, or `$.` and segments. -/
def selectRelative (v : Value) (path : String) : Option Value :=
  match path.toList with
  | ['$'] => some v
  | '$' :: '.' :: rest => select v ((splitDots rest).map String.ofList)
  | _ => none

/-- Whether a text starts with `$.`. -/
def isStatePath (s : String) : Bool :=
  ['$', '.'].isPrefixOf s.toList

/-- Whether a text is a path expression: it starts with `$.` or `$slot.`. -/
def isPath (s : String) : Bool :=
  isStatePath s || ['$', 's', 'l', 'o', 't', '.'].isPrefixOf s.toList

end StepFlow.Path

namespace StepFlow

/-- The two dictionaries a path can start from. -/
structure Roots where
  state : State
  slot : State

namespace Roots

/-- The dictionary that a root's name stands for. -/
def named? (r : Roots) (name : String) : Option State :=
  if name = "$" then some r.state
  else if name = "$slot" then some r.slot
  else none

/-- What a path leads to.  A bare root stands for the whole dictionary. -/
def resolve (r : Roots) (path : String) : Option Value :=
  match Path.segments path with
  | [] => none
  | root :: rest =>
      match r.named? root, rest with
      | none, _ => none
      | some members, [] => some (.obj members)
      | some members, first :: rest =>
          (Dict.get? members first).bind fun head => Path.select head rest

end Roots

end StepFlow
