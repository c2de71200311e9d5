import StepFlow.Dict
import StepFlow.Yaml.Lexer

/-
  StepFlow.Yaml.Node
  ──────────────────
  The nodes of a YAML document, read from its tokens.

  A node is a scalar, a sequence or a mapping, perhaps with a tag and an
  anchor, or an alias of an anchored node.  Where a node may be missing, the
  empty plain scalar stands for it.
-/

namespace StepFlow.Yaml

/-- What may stand in front of the content of a node. -/
structure Properties where
  /-- The number of the anchor. -/
  anchor : Option Nat
  /-- The tag, its handle expanded. -/
  tag : Option Tag
  deriving DecidableEq, Repr

/-- No properties. -/
def Properties.none : Properties := ⟨.none, .none⟩

/-- A node. -/
inductive Node where
  /-- The node of an anchor again. -/
  | aliasOf (anchor : Nat)
  /-- A text, and whether it is plain. -/
  | scalar (properties : Properties) (text : String) (plain : Bool)
  /-- A list of nodes. -/
  | sequence (properties : Properties) (items : List Node)
  /-- A list of keys and values. -/
  | mapping (properties : Properties) (entries : List (Node × Node))
  deriving Repr

namespace Node

/-- The node that stands for a missing one. -/
def empty : Node := .scalar .none "" true

/-- The properties of a node. -/
def properties : Node → Properties
  | .aliasOf _ => .none
  | .scalar p _ _ => p
  | .sequence p _ => p
  | .mapping p _ => p

/-! ## §1. Views of a document -/

mutual
/-- How many scalars, aliases and ends of collections there are. -/
def size : Node → Nat
  | .aliasOf _ => 1
  | .scalar _ _ _ => 1
  | .sequence _ items => itemsSize items + 2
  | .mapping _ entries => entriesSize entries + 2
/-- The size of a list of nodes. -/
def itemsSize : List Node → Nat
  | [] => 0
  | n :: rest => n.size + itemsSize rest
/-- The size of a list of keys and values. -/
def entriesSize : List (Node × Node) → Nat
  | [] => 0
  | (k, v) :: rest => k.size + v.size + entriesSize rest
end

mutual
/-- All nodes, each before those inside it. -/
def nodes : Node → List Node
  | .sequence p items => .sequence p items :: itemNodes items
  | .mapping p entries => .mapping p entries :: entryNodes entries
  | n => [n]
/-- All nodes of a list of nodes. -/
def itemNodes : List Node → List Node
  | [] => []
  | n :: rest => n.nodes ++ itemNodes rest
/-- All nodes of a list of keys and values. -/
def entryNodes : List (Node × Node) → List Node
  | [] => []
  | (k, v) :: rest => k.nodes ++ v.nodes ++ entryNodes rest
end

/-- The nodes that carry an anchor, with its number. -/
def anchored (n : Node) : List (Nat × Node) :=
  n.nodes.filterMap fun m => m.properties.anchor.map fun a => (a, m)

end Node

/-! ## §2. Reading tokens -/

/-- What is left to read, and the anchors so far. -/
structure TokenReader where
  tokens : List Token
  /-- The number of each anchor by its name. -/
  anchors : Dict Nat

/-- Reading nodes from tokens. -/
abbrev NodeReader := StateT TokenReader (Except YamlError)

namespace NodeReader

/-- The next token. -/
def peek : NodeReader Token := do
  return (← get).tokens.head?.getD .streamEnd

/-- Move past the next token. -/
def skip : NodeReader Unit :=
  modify fun s => { s with tokens := s.tokens.tail }

/-- Whether one of these tokens comes next. -/
def atAny (ts : List Token) : NodeReader Bool := do
  return ts.contains (← peek)

/-- Move past the token that has to come next. -/
def expect (t : Token) : NodeReader Unit := do
  if (← peek) = t then skip else throw .unexpectedToken

/-- Number an anchor.  A name that is used again gets the number that the next new name
would get. -/
def number (name : String) : NodeReader Nat := do
  let s ← get
  let n := s.anchors.length
  set { s with anchors := Dict.insert s.anchors name n }
  return n

/-- The number of the anchor that an alias names. -/
def aliased (name : String) : NodeReader Nat := do
  match Dict.get? (← get).anchors name with
  | some n => return n
  | none => throw .unknownAlias

/-- Read an anchor, if there is one. -/
def anchor : NodeReader (Option Nat) := do
  match ← peek with
  | .anchor name =>
      skip
      return some (← number name)
  | _ => return none

/-- The tag of a handle and a suffix.  Two handles need no declaration. -/
def expandTag (handles : Dict Tag) (handle : String) (suffix : Tag) : NodeReader Tag :=
  match Dict.get? handles handle with
  | some expansion => return expansion.append suffix
  | none =>
      if handle = "" then return suffix
      else if handle = "!" then return (Tag.ofText "!").append suffix
      else if handle = "!!" then return (Tag.core "").append suffix
      else throw .undeclaredHandle

/-- Read a tag, if there is one. -/
def tag (handles : Dict Tag) : NodeReader (Option Tag) := do
  match ← peek with
  | .tag handle suffix =>
      skip
      return some (← expandTag handles handle suffix)
  | _ => return none

/-- Read the properties of a node: an anchor and a tag, in either order. -/
def properties (handles : Dict Tag) : NodeReader Properties := do
  match ← tag handles with
  | some t => return ⟨← anchor, some t⟩
  | none =>
      let a ← anchor
      return ⟨a, ← tag handles⟩

/-- The node without content that has these properties. -/
def bare (p : Properties) : NodeReader Node :=
  if p = .none then throw .unexpectedToken else return .scalar p "" true

/-- Read a node, unless one of `stops` comes next. -/
def contentUnless (stops : List Token) (content : NodeReader Node) : NodeReader Node := do
  if ← atAny stops then return .empty else content

/-- Read the value of a key, if a colon comes next. -/
def value (stops : List Token) (content : NodeReader Node) : NodeReader Node := do
  match ← peek with
  | .value =>
      skip
      contentUnless stops content
  | _ => return .empty

/-! ## §3. Nodes -/

mutual
/-- Read a node.  A `block` collection may start here, and so may a sequence that is not
indented. -/
def node (handles : Dict Tag) : Nat → (block : Bool) → (indentless : Bool) → NodeReader Node
  | 0, _, _ => throw .unexpectedToken
  | fuel + 1, block, indentless => do
      match ← peek with
      | .aliasOf name =>
          skip
          return .aliasOf (← aliased name)
      | _ =>
          let p ← properties handles
          match ← peek with
          | .scalar text plain =>
              skip
              return .scalar p text plain
          | .flowSequenceStart =>
              skip
              return .sequence p (← flowItems handles fuel true)
          | .flowMappingStart =>
              skip
              return .mapping p (← flowEntries handles fuel true)
          | .blockEntry =>
              if indentless then return .sequence p (← indentlessItems handles fuel) else bare p
          | .blockSequenceStart =>
              if block then
                skip
                return .sequence p (← blockItems handles fuel)
              else bare p
          | .blockMappingStart =>
              if block then
                skip
                return .mapping p (← blockEntries handles fuel)
              else bare p
          | _ => bare p
/-- Read the items of a block sequence, to its end. -/
def blockItems (handles : Dict Tag) : Nat → NodeReader (List Node)
  | 0 => throw .unexpectedToken
  | fuel + 1 => do
      match ← peek with
      | .blockEntry =>
          skip
          let item ← contentUnless [.blockEntry, .blockEnd] (node handles fuel true false)
          return item :: (← blockItems handles fuel)
      | .blockEnd =>
          skip
          return []
      | _ => throw .unexpectedToken
/-- Read the items of a sequence that is not indented; no token marks its end. -/
def indentlessItems (handles : Dict Tag) : Nat → NodeReader (List Node)
  | 0 => throw .unexpectedToken
  | fuel + 1 => do
      match ← peek with
      | .blockEntry =>
          skip
          let item ← contentUnless [.blockEntry, .key, .value, .blockEnd]
            (node handles fuel true false)
          return item :: (← indentlessItems handles fuel)
      | _ => return []
/-- Read the entries of a block mapping, to its end. -/
def blockEntries (handles : Dict Tag) : Nat → NodeReader (List (Node × Node))
  | 0 => throw .unexpectedToken
  | fuel + 1 => do
      match ← peek with
      | .key =>
          skip
          let key ← contentUnless [.key, .value, .blockEnd] (node handles fuel true true)
          let value ← value [.key, .value, .blockEnd] (node handles fuel true true)
          return (key, value) :: (← blockEntries handles fuel)
      | .blockEnd =>
          skip
          return []
      | _ => throw .unexpectedToken
/-- Read the items of a flow sequence, to its bracket.  A single key with its value is a
mapping.  If that key is missing, the token in its place is lost. -/
def flowItems (handles : Dict Tag) : Nat → (first : Bool) → NodeReader (List Node)
  | 0, _ => throw .unexpectedToken
  | fuel + 1, first => do
      if ← atAny [.flowSequenceEnd] then
        skip
        return []
      else
        if !first then expect .flowEntry
        match ← peek with
        | .flowSequenceEnd =>
            skip
            return []
        | .key =>
            skip
            let missing ← atAny [.value, .flowEntry, .flowSequenceEnd]
            let key ← if missing then skip *> pure Node.empty else node handles fuel false false
            let value ← value [.flowEntry, .flowSequenceEnd] (node handles fuel false false)
            return .mapping .none [(key, value)] :: (← flowItems handles fuel false)
        | _ =>
            let item ← node handles fuel false false
            return item :: (← flowItems handles fuel false)
/-- Read the entries of a flow mapping, to its brace. -/
def flowEntries (handles : Dict Tag) : Nat → (first : Bool) → NodeReader (List (Node × Node))
  | 0, _ => throw .unexpectedToken
  | fuel + 1, first => do
      if ← atAny [.flowMappingEnd] then
        skip
        return []
      else
        if !first then expect .flowEntry
        match ← peek with
        | .flowMappingEnd =>
            skip
            return []
        | .key =>
            skip
            let key ← contentUnless [.value, .flowEntry, .flowMappingEnd]
              (node handles fuel false false)
            let value ← value [.flowEntry, .flowMappingEnd] (node handles fuel false false)
            return (key, value) :: (← flowEntries handles fuel false)
        | _ =>
            let key ← node handles fuel false false
            return (key, .empty) :: (← flowEntries handles fuel false)
end

/-! ## §4. Documents -/

/-- Read the directives of a document: at most one version, each handle declared once. -/
def directives : List Token → (versioned : Bool) → Dict Tag →
    Except YamlError (Dict Tag × List Token)
  | .versionDirective major minor :: rest, versioned, handles =>
      if !versioned && major == 1 && (minor == 1 || minor == 2) then directives rest true handles
      else .error .badDirective
  | .tagDirective handle expansion :: rest, versioned, handles =>
      if Dict.contains handles handle then .error .badDirective
      else directives rest versioned (Dict.insert handles handle expansion)
  | rest, _, handles => .ok (handles, rest)

/-- Read the content of a document, which may be missing. -/
def content (handles : Dict Tag) (fuel : Nat) : NodeReader Node := do
  match ← peek with
  | .versionDirective _ _ => return .empty
  | .tagDirective _ _ => return .empty
  | .documentStart => return .empty
  | .documentEnd => return .empty
  | .streamEnd => return .empty
  | _ => node handles fuel true false

/-- Nothing but ends of documents may follow the first one. -/
def finish : NodeReader Unit := do
  if (← get).tokens.all (fun t => t == .documentEnd || t == .streamEnd) then return ()
  else throw .moreDocuments

end NodeReader

/-- The node of a text's only document, if there is one. -/
def document (text : String) : Except YamlError (Option Node) := do
  let ts ← tokens text
  let fuel := 2 * ts.length + 2
  if ts = [.streamEnd] then return none
  else
    let (handles, rest) ← NodeReader.directives ts false []
    let explicit := rest.head? == some .documentStart
    if !explicit && rest.length != ts.length then .error .unexpectedToken
    else
      let read : NodeReader Node :=
        (if explicit then NodeReader.content handles fuel
          else NodeReader.node handles fuel true false) <* NodeReader.finish
      let (n, _) ← read.run ⟨if explicit then rest.tail else rest, []⟩
      return some n

end StepFlow.Yaml
