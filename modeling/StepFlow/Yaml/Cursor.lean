import StepFlow.Text.Bytes

/-
  StepFlow.Yaml.Cursor
  ────────────────────
  A place in a YAML text, and the characters that divide it.

  Lines end at a carriage return, a line feed, both together, a next-line, a
  line separator or a paragraph separator.  The first four are read as a line
  feed.
-/

namespace StepFlow.Yaml

/-- Why a text is not YAML that stands for a value. -/
inductive YamlError where
  /-- A character that no YAML text may hold. -/
  | controlCharacter
  /-- A tab where the indentation counts. -/
  | tabInIndentation
  /-- A quoted scalar does not end. -/
  | unfinishedScalar
  /-- A document mark inside a quoted scalar. -/
  | markInScalar
  /-- An unknown or malformed escape. -/
  | badEscape
  /-- A colon in a flow collection that could be two things. -/
  | ambiguousColon
  /-- A malformed header of a block scalar. -/
  | badBlockHeader
  /-- A malformed directive. -/
  | badDirective
  /-- A malformed anchor or alias. -/
  | badAnchor
  /-- A malformed tag. -/
  | badTag
  /-- A sequence entry, a key or a value where none may start. -/
  | notAllowedHere
  /-- A key without its colon. -/
  | missingColon
  /-- No token starts with this character. -/
  | unexpectedCharacter
  /-- A token out of place. -/
  | unexpectedToken
  /-- A tag handle that was not declared. -/
  | undeclaredHandle
  /-- An alias of nothing. -/
  | unknownAlias
  /-- More than one document. -/
  | moreDocuments
  /-- A scalar that is not what its tag says. -/
  | badScalar
  /-- A tag that no value carries. -/
  | taggedValue
  /-- A key that is not a scalar. -/
  | badKey
  /-- A whole number that does not fit. -/
  | numberOutOfRange
  /-- Collections are nested too deep. -/
  | tooDeep
  /-- Aliases repeat too much. -/
  | tooManyAliases
  deriving DecidableEq, Repr

/-- What a YAML error says. -/
def YamlError.message : YamlError → String
  | .controlCharacter => "control characters are not allowed"
  | .tabInIndentation => "found a tab where indentation is expected"
  | .unfinishedScalar => "found the end of the text inside a quoted scalar"
  | .markInScalar => "found a document mark inside a quoted scalar"
  | .badEscape => "found an unknown escape"
  | .ambiguousColon => "found an unexpected colon"
  | .badBlockHeader => "found a malformed block scalar header"
  | .badDirective => "found a malformed directive"
  | .badAnchor => "found a malformed anchor"
  | .badTag => "found a malformed tag"
  | .notAllowedHere => "found an entry that is not allowed here"
  | .missingColon => "could not find the colon of a key"
  | .unexpectedCharacter => "found a character that cannot start a token"
  | .unexpectedToken => "found an unexpected token"
  | .undeclaredHandle => "found an undeclared tag handle"
  | .unknownAlias => "found an alias of nothing"
  | .moreDocuments => "found more than one document"
  | .badScalar => "found a scalar that is not what its tag says"
  | .taggedValue => "found a tag that no value carries"
  | .badKey => "found a key that is not a scalar"
  | .numberOutOfRange => "found a whole number that does not fit"
  | .tooDeep => "collections are nested too deep"
  | .tooManyAliases => "aliases repeat too much"

/-! ## §1. Characters -/

/-- Whether a line ends here. -/
def isBreak (c : Char) : Bool :=
  c == '\n' || c == '\r' || c.toNat == 0x85 || c.toNat == 0x2028 || c.toNat == 0x2029

/-- A space or a tab. -/
def isGap (c : Char) : Bool :=
  c == ' ' || c == '\t'

/-- The characters of names: ASCII letters and digits, underscore and hyphen. -/
def isNameChar (c : Char) : Bool :=
  c.isAlphanum || c == '_' || c == '-'

/-- The characters that a YAML text may hold. -/
def isAllowed (c : Char) : Bool :=
  let n := c.toNat
  n == 9 || n == 10 || n == 13 || (0x20 ≤ n && n ≤ 0x7E) || n == 0x85 ||
    (0xA0 ≤ n && n ≤ 0xD7FF) || (0xE000 ≤ n && n ≤ 0xFFFD) || 0x10000 ≤ n

/-- Whether a space, a tab, a line break or the end comes next. -/
def gapNext : List Char → Bool
  | [] => true
  | c :: _ => isGap c || isBreak c

/-- The characters up to the next space, tab or line break. -/
def word (cs : List Char) : List Char :=
  cs.takeWhile fun c => !(isGap c || isBreak c)

/-- The characters up to the next line break. -/
def lineOf (cs : List Char) : List Char :=
  cs.takeWhile fun c => !isBreak c

/-- Whether a line break or the end comes next. -/
def breakNext : List Char → Bool
  | [] => true
  | c :: _ => isBreak c

/-! ## §2. The cursor -/

/-- A place in a text: what follows it, and where it is. -/
structure Cursor where
  rest : List Char
  /-- How many bytes come before. -/
  index : Nat
  line : Nat
  column : Nat
  /-- How many characters the whole text has: fuel enough for whatever reads characters. -/
  size : Nat

namespace Cursor

/-- The start of a text. -/
def start (cs : List Char) : Cursor := ⟨cs, 0, 0, 0, cs.length⟩

/-- Move past `n` characters of the current line. -/
def skip (c : Cursor) (n : Nat) : Cursor :=
  { c with rest := c.rest.drop n, index := c.index + Text.byteLength (c.rest.take n),
           column := c.column + n }

/-- Move past the characters of the current line that satisfy `p`. -/
def skipWhile (c : Cursor) (p : Char → Bool) : Cursor :=
  c.skip (c.rest.takeWhile p).length

/-- Move past the characters `taken`, of which `left` were not read after all. -/
def skipRead (c : Cursor) (taken left : List Char) : Cursor :=
  c.skip (taken.length - left.length)

/-- Move to the start of the next line. -/
def nextLine (c : Cursor) (bytes : Nat) (rest : List Char) : Cursor :=
  { c with rest := rest, index := c.index + bytes, line := c.line + 1, column := 0 }

/-- Read a line break, if there is one. -/
def takeBreak (c : Cursor) : List Char × Cursor :=
  match c.rest with
  | '\r' :: '\n' :: rest => (['\n'], c.nextLine 2 rest)
  | ch :: rest =>
      let next := c.nextLine ch.utf8Size rest
      if ch = '\r' ∨ ch = '\n' ∨ ch.toNat = 0x85 then (['\n'], next)
      else if isBreak ch then ([ch], next)
      else ([], c)
  | [] => ([], c)

/-- Whether a mark that starts or ends a document stands here. -/
def atMark (c : Cursor) : Bool :=
  c.column == 0 &&
    match c.rest with
    | '-' :: '-' :: '-' :: rest => gapNext rest
    | '.' :: '.' :: '.' :: rest => gapNext rest
    | _ => false

end Cursor

/-! ## §3. Space between words -/

/-- The space between two words of a scalar: blanks, or line breaks. -/
structure Gap where
  /-- The blanks before any line break, last one first. -/
  blanks : List Char
  /-- The first line break. -/
  first : List Char
  /-- The line breaks after the first. -/
  more : List Char
  /-- Whether there was a line break. -/
  broken : Bool

namespace Gap

/-- No space. -/
def empty : Gap := ⟨[], [], [], false⟩

/-- A line break that was escaped and leaves no trace. -/
def escaped : Gap := ⟨[], [], [], true⟩

/-- Add a line break. -/
def addBreak (g : Gap) (b : List Char) : Gap :=
  if g.broken then { g with more := g.more ++ b } else ⟨[], b, [], true⟩

/-- Add a blank; after a line break it is indentation. -/
def addBlank (g : Gap) (c : Char) : Gap :=
  if g.broken then g else { g with blanks := c :: g.blanks }

/-- What the space amounts to: a single line feed folds into a space, others stay. -/
def folded (g : Gap) : List Char :=
  if g.broken then
    if g.first.head? = some '\n' then
      if g.more.isEmpty then [' '] else g.more
    else g.first ++ g.more
  else g.blanks.reverse

end Gap

/-- Read the space between words.  A tab left of `indent` after a line break is a mistake.
Each round reads a character. -/
def readGap (indent : Int) : Nat → Gap → Cursor → Except YamlError (Gap × Cursor)
  | 0, g, c => .ok (g, c)
  | fuel + 1, g, c =>
      match c.rest with
      | [] => .ok (g, c)
      | ch :: _ =>
          if isGap ch then
            if g.broken && ch == '\t' && (c.column : Int) < indent then .error .tabInIndentation
            else readGap indent fuel (g.addBlank ch) (c.skip 1)
          else if isBreak ch then
            let (b, c) := c.takeBreak
            readGap indent fuel (g.addBreak b) c
          else .ok (g, c)

end StepFlow.Yaml
