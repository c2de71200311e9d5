import StepFlow.Document.Mismatch

/-
  StepFlow.Document.Bindings
  ──────────────────────────
  Binding maps: what a step reads from the state and what it writes back.

  In a document a binding map is an object.  Two shapes are reserved: the key
  `__lcod_spreads__` lists spreads, which copy the members of an object, and
  an entry `{"__lcod_optional__": true, "value": e}` is left out when `e`
  leads nowhere.
-/

namespace StepFlow

/-- The key under which spreads are listed. -/
def spreadKey : String := "__lcod_spreads__"

/-- The member that marks an optional entry. -/
def optionalFlag : String := "__lcod_optional__"

/-- Whether the members are those of an optional entry. -/
def isOptionalWrapper (members : State) : Bool :=
  match Dict.get? members optionalFlag with
  | some (.bool true) => true
  | _ => false

/-- One keyed entry of a binding map. -/
inductive Binding where
  /-- Always written; what is absent becomes null. -/
  | required (expr : Value)
  /-- Left out when absent. -/
  | optional (expr : Value)
  deriving DecidableEq, Repr

namespace Binding

/-- The expression of an entry. -/
def expr : Binding → Value
  | .required e => e
  | .optional e => e

/-- Whether the entry is optional. -/
def isOptional : Binding → Bool
  | .required _ => false
  | .optional _ => true

/-- The entry that a member's value stands for. -/
def ofValue : Value → Binding
  | .obj members =>
      if isOptionalWrapper members then .optional ((Dict.get? members "value").getD .null)
      else .required (.obj members)
  | v => .required v

/-- The member's value that stands for an entry. -/
def toValue : Binding → Value
  | .required e => e
  | .optional e => .obj [(optionalFlag, .bool true), ("value", e)]

end Binding

/-- Copies the members of an object, or the picked ones. -/
structure Spread where
  /-- Where the object comes from. -/
  source : Value
  /-- The keys to copy; all of them if not given. -/
  pick : Option (List String)
  /-- Whether picked keys that are missing are left out instead of written as null. -/
  optional : Bool
  deriving DecidableEq, Repr

namespace Spread

/-- Read a list of keys. -/
def readKeys : List Value → Except BindingError (List String)
  | [] => .ok []
  | .str s :: rest => (readKeys rest).map (s :: ·)
  | v :: _ => .error (.field v .text)

/-- Read the picked keys. -/
def readPick : Value → Except BindingError (Option (List String))
  | .null => .ok none
  | .arr items => (readKeys items).map some
  | v => .error (.field v .sequence)

/-- Read the members of a spread in order; unknown ones are ignored. -/
def readMembers : State → Spread → Except BindingError Spread
  | [], s => .ok s
  | (key, v) :: rest, s =>
      if key = "source" then readMembers rest { s with source := v }
      else if key = "pick" then do
        let pick ← readPick v
        readMembers rest { s with pick := pick }
      else if key = "optional" then
        match v with
        | .bool b => readMembers rest { s with optional := b }
        | v => .error (.field v .truth)
      else readMembers rest s

/-- A spread as a value: what is not set is left out. -/
def toValue (s : Spread) : Value :=
  .obj ([("source", s.source)] ++
    (match s.pick with
      | some keys => [("pick", .arr (keys.map .str))]
      | none => []) ++
    (if s.optional then [("optional", .bool true)] else []))

end Spread

/-- A binding map: spreads, which come first, and keyed entries. -/
structure Bindings where
  spreads : List Spread
  entries : Dict Binding
  deriving DecidableEq, Repr, Inhabited

namespace Bindings

/-- No spreads and no entries. -/
def empty : Bindings := ⟨[], []⟩

/-- Whether there is nothing to bind. -/
def isEmpty (b : Bindings) : Bool :=
  b.spreads.isEmpty && b.entries.isEmpty

/-- Write a keyed entry. -/
def insert (b : Bindings) (key : String) (entry : Binding) : Bindings :=
  { b with entries := Dict.insert b.entries key entry }

/-- Add a spread after the others. -/
def spread (b : Bindings) (s : Spread) : Bindings :=
  { b with spreads := b.spreads ++ [s] }

/-! ## Reading and writing -/

/-- Read a list of spreads; items that are not objects are ignored. -/
def readSpreads : List Value → Bindings → Except BindingError Bindings
  | [], b => .ok b
  | .obj members :: rest, b => do
      let s ← Spread.readMembers members ⟨.null, none, false⟩
      readSpreads rest (b.spread s)
  | _ :: rest, b => readSpreads rest b

/-- Read the members of a binding map, in order. -/
def readMembers : State → Bindings → Except BindingError Bindings
  | [], b => .ok b
  | (key, v) :: rest, b =>
      if key = spreadKey then
        match v with
        | .arr items => do
            let b ← readSpreads items b
            readMembers rest b
        | _ => .error .spreadsNotList
      else readMembers rest (b.insert key (.ofValue v))

/-- The binding map that an object's members stand for. -/
def ofMembers (members : State) : Except BindingError Bindings :=
  readMembers members empty

/-- Read a binding map. -/
def read : Value → Except Mismatch Bindings
  | .obj members => (ofMembers members).mapError .binding
  | v => .error (.unexpected v .map)

/-- The members that stand for a binding map: the spreads first, then the entries. -/
def toMembers (b : Bindings) : State :=
  Dict.insertAll
    (if b.spreads.isEmpty then [] else [(spreadKey, .arr (b.spreads.map Spread.toValue))])
    (Dict.mapValues Binding.toValue b.entries)

end Bindings

end StepFlow
