import StepFlow.Yaml.Tag

/-
  StepFlow.Yaml.Token
  ───────────────────
  The tokens of a YAML text, and those that name things: anchors, aliases, tags
  and directives.
-/

namespace StepFlow.Yaml

/-- A token. -/
inductive Token where
  /-- The end of the text. -/
  | streamEnd
  /-- A directive that gives the version. -/
  | versionDirective (major minor : Nat)
  /-- A directive that declares a tag handle. -/
  | tagDirective (handle : String) (expansion : Tag)
  /-- The mark that starts a document. -/
  | documentStart
  /-- The mark that ends a document. -/
  | documentEnd
  /-- A block sequence starts. -/
  | blockSequenceStart
  /-- A block mapping starts. -/
  | blockMappingStart
  /-- A block collection ends. -/
  | blockEnd
  /-- `[` -/
  | flowSequenceStart
  /-- `]` -/
  | flowSequenceEnd
  /-- An opening brace. -/
  | flowMappingStart
  /-- A closing brace. -/
  | flowMappingEnd
  /-- `-` -/
  | blockEntry
  /-- `,` -/
  | flowEntry
  /-- A key follows. -/
  | key
  /-- A value follows. -/
  | value
  /-- The node of an anchor again. -/
  | aliasOf (name : String)
  /-- A name for the node that follows. -/
  | anchor (name : String)
  /-- A tag for the node that follows. -/
  | tag (handle : String) (suffix : Tag)
  /-- A scalar, and whether it is plain. -/
  | scalar (text : String) (plain : Bool)
  deriving DecidableEq, Repr

/-! ## §1. Anchors -/

/-- Whether a name may end in front of this. -/
def endsAnchor : List Char → Bool
  | [] => true
  | c :: _ => isGap c || isBreak c || "?:,]\x7d%@`".toList.contains c

/-- Read the name of an anchor or an alias, its indicator coming next. -/
def readAnchor (c : Cursor) : Except YamlError (String × Cursor) :=
  let c := c.skip 1
  let name := c.rest.takeWhile isNameChar
  let c := c.skip name.length
  if name.isEmpty || !endsAnchor c.rest then .error .badAnchor
  else .ok (String.ofList name, c)

/-! ## §2. Tags -/

/-- Read a tag, its exclamation mark coming next. -/
def readTag (flow : Bool) (c : Cursor) : Except YamlError (Token × Cursor) := do
  let word := word c.rest
  let (handle, suffix, rest) ← tagParts word
  if rest.isEmpty || (flow && rest.head? == some ',') then
    return (.tag handle suffix, c.skipRead word rest)
  else .error .badTag

/-! ## §3. Directives -/

/-- Read a part of a version: at most nine digits. -/
def versionNumber (cs : List Char) : Except YamlError (Nat × List Char) :=
  let ds := cs.takeWhile Char.isDigit
  if ds.isEmpty || 9 < ds.length then .error .badDirective
  else .ok (ds.foldl (fun n d => n * 10 + (d.toNat - '0'.toNat)) 0, cs.dropWhile Char.isDigit)

/-- Read the value of a version directive. -/
def versionValue (cs : List Char) : Except YamlError (Token × List Char) := do
  let (major, rest) ← versionNumber (cs.dropWhile isGap)
  match rest with
  | '.' :: rest =>
      let (minor, rest) ← versionNumber rest
      return (.versionDirective major minor, rest)
  | _ => .error .badDirective

/-- Read the value of a directive that declares a tag handle. -/
def tagValue (cs : List Char) : Except YamlError (Token × List Char) := do
  let (handle, rest) ← tagHandle (cs.dropWhile isGap)
  if !(isClosedHandle handle || handle.length == 1) then .error .badDirective
  else if !(rest.head?.map isGap).getD false then .error .badDirective
  else
    let rest := rest.dropWhile isGap
    let (expansion, rest) ← tagBytes true (rest.length + 1) rest
    if expansion.isEmpty || !gapNext rest then .error .badDirective
    else return (.tagDirective (String.ofList handle) (.ofBytes expansion), rest)

/-- Read a directive, its percent sign coming next, and the rest of its line. -/
def readDirective (c : Cursor) : Except YamlError (Token × Cursor) := do
  let c := c.skip 1
  let name := c.rest.takeWhile isNameChar
  let c := c.skip name.length
  if name.isEmpty || !gapNext c.rest then .error .badDirective
  else
    let line := lineOf c.rest
    let (token, rest) ←
      if name = "YAML".toList then versionValue line
      else if name = "TAG".toList then tagValue line
      else .error .badDirective
    match skipComment (c.skipRead line rest) with
    | some c => return (token, c.takeBreak.2)
    | none => .error .badDirective

end StepFlow.Yaml
