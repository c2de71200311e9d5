import StepFlow.Yaml.Token

/-
  StepFlow.Yaml.Lexer
  ───────────────────
  Dividing a YAML text into tokens.

  Indentation opens and closes block collections.  A key without a question
  mark is known as a key only when its colon is met, so the place where it could
  have started is remembered, and the key token is put there afterwards.
-/

namespace StepFlow.Yaml

/-- A place where a key may have started. -/
structure KeyPlace where
  /-- Whether a colon has to follow. -/
  required : Bool
  /-- How many tokens came before. -/
  token : Nat
  index : Nat
  line : Nat
  column : Nat

/-- The state of the lexer. -/
structure Lexer where
  cursor : Cursor
  /-- How many flow collections are open. -/
  flow : Nat
  /-- The indentation of the current block, `-1` outside any. -/
  indent : Int
  /-- The indentations of the surrounding blocks. -/
  indents : List Int
  /-- Whether a key may start here. -/
  keyAllowed : Bool
  /-- For each open flow collection and the block around them, where a key may have started. -/
  keys : List (Option KeyPlace)
  tokens : Array Token

namespace Lexer

/-- At the start of a text. -/
def start (cs : List Char) : Lexer :=
  ⟨.start cs, 0, -1, [], true, [none], #[]⟩

/-- Whether a flow collection is open. -/
def inFlow (l : Lexer) : Bool := 0 < l.flow

/-- Add a token. -/
def push (l : Lexer) (t : Token) : Lexer :=
  { l with tokens := l.tokens.push t }

/-- Move on and add a token. -/
def emit (l : Lexer) (chars : Nat) (t : Token) : Lexer :=
  { l with cursor := l.cursor.skip chars }.push t

/-! ## §1. Indentation -/

/-- Close the blocks that are indented more than `column`. -/
def unroll (l : Lexer) (column : Int) : Lexer :=
  if l.inFlow then l else go l (l.indents.length + 1)
where
  go (l : Lexer) : Nat → Lexer
    | 0 => l
    | n + 1 =>
        if column < l.indent then
          go { l with indent := l.indents.head?.getD (-1), indents := l.indents.tail,
                      tokens := l.tokens.push .blockEnd } n
        else l

/-- Open a block if `column` is indented more than the current one; its token goes to the
given place, or to the end. -/
def roll (l : Lexer) (column : Nat) (place : Option Nat) (t : Token) : Lexer :=
  if !l.inFlow && l.indent < (column : Int) then
    { l with indents := l.indent :: l.indents, indent := column,
             tokens := match place with
               | some i => l.tokens.insertIdxIfInBounds i t
               | none => l.tokens.push t }
  else l

/-! ## §2. Places of keys -/

/-- Give up on a place where a key may have started. -/
def dropKey (l : Lexer) : Except YamlError Lexer :=
  match l.keys with
  | some k :: rest => if k.required then .error .missingColon else .ok { l with keys := none :: rest }
  | _ => .ok l

/-- Remember that a key may start here. -/
def saveKey (l : Lexer) : Except YamlError Lexer :=
  if l.keyAllowed then do
    let l ← l.dropKey
    let required := !l.inFlow && l.indent == (l.cursor.column : Int)
    let place : KeyPlace :=
      ⟨required, l.tokens.size, l.cursor.index, l.cursor.line, l.cursor.column⟩
    return { l with keys := some place :: l.keys.tail }
  else .ok l

/-- Whether a key that started there cannot reach this far: it is on one line and has at most
1024 bytes. -/
def isStale (c : Cursor) (k : KeyPlace) : Bool :=
  k.line < c.line || k.index + 1024 < c.index

/-- Give up on the places that are too far away. -/
def dropStale (l : Lexer) : Except YamlError Lexer :=
  if l.keys.any (fun k => (k.map fun k => isStale l.cursor k && k.required).getD false) then
    .error .missingColon
  else .ok { l with keys := l.keys.map fun k => k.filter fun k => !isStale l.cursor k }

/-! ## §3. Single tokens -/

/-- Move past a mark of the byte order at the start of a line. -/
def skipOrderMark (c : Cursor) : Cursor :=
  if c.column = 0 ∧ (c.rest.head?.map Char.toNat) = some 0xFEFF then c.skip 1 else c

/-- Move to the next token, past space, comments, line breaks and marks of the byte order. -/
def skipToToken : Nat → Lexer → Lexer
  | 0, l => l
  | fuel + 1, l =>
      let c := skipOrderMark l.cursor
      let tabs := l.inFlow || !l.keyAllowed
      let c := c.skipWhile fun ch => ch == ' ' || (tabs && ch == '\t')
      let c := if c.rest.head? == some '#' then c.skipWhile (fun ch => !isBreak ch) else c
      if breakNext c.rest && !c.rest.isEmpty then
        skipToToken fuel
          { l with cursor := c.takeBreak.2, keyAllowed := l.keyAllowed || !l.inFlow }
      else { l with cursor := c }

/-- A token that closes all blocks: a directive, a document mark, the end. -/
def closeBlocks (l : Lexer) : Except YamlError Lexer := do
  let l ← (l.unroll (-1)).dropKey
  return { l with keyAllowed := false }

/-- The end of the text. -/
def finish (l : Lexer) : Except YamlError Lexer := do
  return (← l.closeBlocks).push .streamEnd

/-- An opening bracket. -/
def openFlow (l : Lexer) (t : Token) : Except YamlError Lexer := do
  let l ← l.saveKey
  return { l with flow := l.flow + 1, keys := none :: l.keys, keyAllowed := true }.emit 1 t

/-- A closing bracket. -/
def closeFlow (l : Lexer) (t : Token) : Except YamlError Lexer := do
  let l ← l.dropKey
  let l := if l.inFlow then { l with flow := l.flow - 1, keys := l.keys.tail } else l
  return { l with keyAllowed := false }.emit 1 t

/-- A comma. -/
def comma (l : Lexer) : Except YamlError Lexer := do
  let l ← l.dropKey
  return { l with keyAllowed := true }.emit 1 .flowEntry

/-- The dash of a sequence entry. -/
def dash (l : Lexer) : Except YamlError Lexer := do
  if !l.inFlow && !l.keyAllowed then .error .notAllowedHere
  else
    let l ← (l.roll l.cursor.column none .blockSequenceStart).dropKey
    return { l with keyAllowed := true }.emit 1 .blockEntry

/-- The question mark of a key. -/
def question (l : Lexer) : Except YamlError Lexer := do
  if !l.inFlow && !l.keyAllowed then .error .notAllowedHere
  else
    let l ← (l.roll l.cursor.column none .blockMappingStart).dropKey
    return { l with keyAllowed := !l.inFlow }.emit 1 .key

/-- The colon of a value.  If a key may have started before it, that key is one. -/
def colon (l : Lexer) : Except YamlError Lexer :=
  match l.keys with
  | some k :: rest =>
      let l := { l with tokens := l.tokens.insertIdxIfInBounds k.token .key }
      let l := l.roll k.column (some k.token) .blockMappingStart
      .ok ({ l with keys := none :: rest, keyAllowed := false }.emit 1 .value)
  | _ =>
      if !l.inFlow && !l.keyAllowed then .error .notAllowedHere
      else
        let l := l.roll l.cursor.column none .blockMappingStart
        .ok ({ l with keyAllowed := !l.inFlow }.emit 1 .value)

/-- An anchor or an alias. -/
def anchor (l : Lexer) (token : String → Token) : Except YamlError Lexer := do
  let l ← l.saveKey
  let (name, c) ← readAnchor l.cursor
  return { l with cursor := c, keyAllowed := false }.push (token name)

/-- A tag. -/
def tag (l : Lexer) : Except YamlError Lexer := do
  let l ← l.saveKey
  let (t, c) ← readTag l.inFlow l.cursor
  return { l with cursor := c, keyAllowed := false }.push t

/-- A directive. -/
def directive (l : Lexer) : Except YamlError Lexer := do
  let l ← l.closeBlocks
  let (t, c) ← readDirective l.cursor
  return { l with cursor := c }.push t

/-- A document mark. -/
def mark (l : Lexer) (t : Token) : Except YamlError Lexer := do
  return (← l.closeBlocks).emit 3 t

/-- A block scalar. -/
def block (l : Lexer) (literal : Bool) : Except YamlError Lexer := do
  let l ← l.dropKey
  let (text, c) ← blockScalar literal l.indent l.cursor
  return { l with cursor := c, keyAllowed := true }.push (.scalar text false)

/-- A quoted scalar. -/
def quoted (l : Lexer) (single : Bool) : Except YamlError Lexer := do
  let l ← l.saveKey
  let (text, c) ← quotedScalar single l.cursor
  return { l with cursor := c, keyAllowed := false }.push (.scalar text false)

/-- A plain scalar. -/
def plain (l : Lexer) : Except YamlError Lexer := do
  let l ← l.saveKey
  let (text, broken, c) ← plainScalar l.inFlow (l.indent + 1) l.cursor
  return { l with cursor := c, keyAllowed := broken }.push (.scalar text true)

/-- The characters that start something else than a plain scalar. -/
def indicators : List Char := "-?:,[]\x7b\x7d#&*!|>'\"%@`".toList

/-- Whether a plain scalar starts here. -/
def startsPlain (flow : Bool) : List Char → Bool
  | [] => false
  | c :: rest =>
      !(isGap c || isBreak c || indicators.contains c) ||
        (c == '-' && !(rest.head?.map isGap).getD false) ||
        (!flow && (c == '?' || c == ':') && !gapNext rest)

/-! ## §4. The whole text -/

/-- Read the next token, which starts here. -/
def readToken (l : Lexer) : Except YamlError Lexer :=
  let c := l.cursor
  match c.rest with
  | [] => l.finish
  | ch :: rest =>
      if c.column = 0 ∧ ch = '%' then l.directive
      else if c.atMark then l.mark (if ch = '-' then .documentStart else .documentEnd)
      else if ch = '[' then l.openFlow .flowSequenceStart
      else if ch = '{' then l.openFlow .flowMappingStart
      else if ch = ']' then l.closeFlow .flowSequenceEnd
      else if ch = '}' then l.closeFlow .flowMappingEnd
      else if ch = ',' then l.comma
      else if ch = '-' ∧ gapNext rest then l.dash
      else if ch = '?' ∧ (l.inFlow || gapNext rest) then l.question
      else if ch = ':' ∧ (l.inFlow || gapNext rest) then l.colon
      else if ch = '*' then l.anchor .aliasOf
      else if ch = '&' then l.anchor .anchor
      else if ch = '!' then l.tag
      else if ch = '|' ∧ !l.inFlow then l.block true
      else if ch = '>' ∧ !l.inFlow then l.block false
      else if ch = '\'' then l.quoted true
      else if ch = '"' then l.quoted false
      else if startsPlain l.inFlow c.rest then l.plain
      else .error .unexpectedCharacter

/-- Read tokens to the end of the text. -/
def readAll : Nat → Lexer → Except YamlError Lexer
  | 0, _ => .error .unexpectedCharacter
  | fuel + 1, l => do
      let l := skipToToken (l.cursor.size + 1) l
      let l ← l.dropStale
      let l := l.unroll l.cursor.column
      let l ← l.readToken
      if l.tokens.back? = some .streamEnd then return l else readAll fuel l

end Lexer

/-- The tokens of a text. -/
def tokens (text : String) : Except YamlError (List Token) := do
  let cs := text.toList
  if cs.all isAllowed then
    let l ← Lexer.readAll (cs.length + 2) (.start cs)
    return l.tokens.toList
  else .error .controlCharacter

end StepFlow.Yaml
