import StepFlow.Yaml.Node
import StepFlow.Yaml.Schema

/-
  StepFlow.Yaml.Reader
  ────────────────────
  The value that a YAML text stands for.

  Aliases are followed as they are met, so a document may be larger than its
  text; the depth of its collections and the number of aliases followed are
  bounded.  Of two entries under one key the later one counts, in the place of the
  earlier.
-/

namespace StepFlow.Yaml

/-- How deep collections may be nested. -/
def maxDepth : Nat := 128

/-- How many aliases may be followed for each scalar, alias and end of a collection. -/
def aliasFactor : Nat := 100

/-- What aliases need to know about a document. -/
structure Aliases where
  /-- The anchored nodes, the last one first. -/
  targets : List (Nat × Node)
  /-- How many aliases may be followed. -/
  limit : Nat

/-- The aliases of a document. -/
def Aliases.ofNode (n : Node) : Aliases :=
  ⟨n.anchored.reverse, aliasFactor * n.size⟩

/-- Resolving nodes, counting the aliases followed. -/
abbrev Resolver := StateT Nat (Except YamlError)

namespace Aliases

/-- The node itself, or the one that it is an alias of. -/
def follow (a : Aliases) : Node → Resolver Node
  | .aliasOf anchor => do
      let count := (← get) + 1
      if a.limit < count then throw .tooManyAliases
      else
        set count
        match a.targets.lookup anchor with
        | some n => return n
        | none => throw .unknownAlias
  | n => return n

/-- The text of a key, whatever its tag. -/
def key (a : Aliases) (n : Node) : Resolver String := do
  match ← a.follow n with
  | .scalar _ text _ => return text
  | _ => throw .badKey

/-- A collection with a local tag stands for no value. -/
def checkTag (p : Properties) : Resolver Unit :=
  if (p.tag.map Tag.isLocal).getD false then throw .taggedValue else return ()

/-- The value of a node that may hold `depth` levels of collections. -/
def value (a : Aliases) : (depth : Nat) → Node → Resolver Value
  | 0, n => do
      match ← a.follow n with
      | .scalar p text plain => scalarValue p.tag text plain
      | _ => throw .tooDeep
  | depth + 1, n => do
      match ← a.follow n with
      | .scalar p text plain => scalarValue p.tag text plain
      | .sequence p items =>
          checkTag p
          return .arr (← items.mapM (value a depth))
      | .mapping p entries =>
          checkTag p
          let members ← entries.foldlM (fun (members : State) (entry : Node × Node) => do
            let k ← a.key entry.1
            let v ← value a depth entry.2
            return Dict.insert members k v) []
          return .obj members
      | .aliasOf _ => throw .unknownAlias

end Aliases

/-- The value that a text stands for.  A text without a document is null. -/
def read (text : String) : Except YamlError Value := do
  match ← document text with
  | none => return .null
  | some n => ((Aliases.ofNode n).value maxDepth n).run' 0

end StepFlow.Yaml
