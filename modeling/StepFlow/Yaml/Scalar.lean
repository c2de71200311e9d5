import StepFlow.Yaml.Cursor

/-
  StepFlow.Yaml.Scalar
  ────────────────────
  The text of scalars: plain, quoted, and blocks.
-/

namespace StepFlow.Yaml

/-! ## §1. Plain scalars -/

/-- The characters with a meaning of their own in a flow collection. -/
def isFlowIndicator (c : Char) : Bool :=
  c == ',' || c == '[' || c == ']' || c == '{' || c == '}'

/-- Read the characters of a plain scalar up to a space or to what ends it. -/
def plainRun (flow : Bool) : List Char → Except YamlError (List Char)
  | [] => .ok []
  | c :: rest =>
      if isGap c || isBreak c then .ok []
      else if flow && c == ':' && (rest.head?.map fun d => isFlowIndicator d || d == '?') == some true then
        .error .ambiguousColon
      else if (c == ':' && gapNext rest) || (flow && isFlowIndicator c) then .ok []
      else (plainRun flow rest).map (c :: ·)

/-- What was read of a scalar, last character first, the space after it, and where it ends. -/
structure ScalarRead where
  text : List Char
  gap : Gap
  cursor : Cursor

/-- Read the words of a plain scalar.  Outside flow collections it ends where a line is
indented less than `indent`. -/
def plainWords (flow : Bool) (indent : Int) :
    Nat → List Char → Gap → Cursor → Except YamlError ScalarRead
  | 0, acc, gap, c => .ok ⟨acc, gap, c⟩
  | fuel + 1, acc, gap, c =>
      if c.atMark || c.rest.head? == some '#' then .ok ⟨acc, gap, c⟩
      else do
        let run ← plainRun flow c.rest
        if run.isEmpty then return ⟨acc, gap, c⟩
        else
          let acc := run.reverse ++ (gap.folded.reverse ++ acc)
          let c := c.skip run.length
          if gapNext c.rest && !c.rest.isEmpty then
            let (gap, c) ← readGap indent (c.size + 1) .empty c
            if !flow && (c.column : Int) < indent then return ⟨acc, gap, c⟩
            else plainWords flow indent fuel acc gap c
          else return ⟨acc, .empty, c⟩

/-- Read a plain scalar.  Also tells whether it was followed by a line break. -/
def plainScalar (flow : Bool) (indent : Int) (c : Cursor) :
    Except YamlError (String × Bool × Cursor) := do
  let r ← plainWords flow indent (c.size + 1) [] .empty c
  return (String.ofList r.text.reverse, r.gap.broken, r.cursor)

/-! ## §2. Quoted scalars -/

/-- The value of a hexadecimal digit. -/
def hexDigit? (c : Char) : Option Nat :=
  if '0' ≤ c ∧ c ≤ '9' then some (c.toNat - '0'.toNat)
  else if 'a' ≤ c ∧ c ≤ 'f' then some (c.toNat - 'a'.toNat + 10)
  else if 'A' ≤ c ∧ c ≤ 'F' then some (c.toNat - 'A'.toNat + 10)
  else none

/-- Read so many hexadecimal digits. -/
def readHex : Nat → Nat → List Char → Except YamlError Nat
  | 0, value, _ => .ok value
  | _ + 1, _, [] => .error .badEscape
  | n + 1, value, c :: cs =>
      match hexDigit? c with
      | some d => readHex n (value * 16 + d) cs
      | none => .error .badEscape

/-- The character of a code given in so many hexadecimal digits. -/
def readCode (digits : Nat) (cs : List Char) : Except YamlError Char := do
  let n ← readHex digits 0 cs
  if (0xD800 ≤ n ∧ n ≤ 0xDFFF) ∨ 0x10FFFF < n then .error .badEscape
  else return Char.ofNat n

/-- What a letter after a backslash stands for. -/
def escapeOf (c : Char) : Option Char :=
  if c = '0' then some (Char.ofNat 0)
  else if c = 'a' then some (Char.ofNat 7)
  else if c = 'b' then some (Char.ofNat 8)
  else if c = 't' ∨ c = '\t' then some '\t'
  else if c = 'n' then some '\n'
  else if c = 'v' then some (Char.ofNat 11)
  else if c = 'f' then some (Char.ofNat 12)
  else if c = 'r' then some '\r'
  else if c = 'e' then some (Char.ofNat 27)
  else if c = ' ' ∨ c = '"' ∨ c = '/' ∨ c = '\\' then some c
  else if c = 'N' then some (Char.ofNat 0x85)
  else if c = '_' then some (Char.ofNat 0xA0)
  else if c = 'L' then some (Char.ofNat 0x2028)
  else if c = 'P' then some (Char.ofNat 0x2029)
  else none

/-- Read an escape, after its backslash.  Also tells how many characters it has. -/
def readEscape : List Char → Except YamlError (Char × Nat)
  | [] => .error .badEscape
  | c :: rest =>
      match escapeOf c with
      | some e => .ok (e, 1)
      | none =>
          let code (digits : Nat) := (readCode digits rest).map fun e => (e, 1 + digits)
          if c = 'x' then code 2
          else if c = 'u' then code 4
          else if c = 'U' then code 8
          else .error .badEscape

/-- How a run of characters inside quotes ended. -/
inductive RunEnd where
  /-- At a space, at the closing quote or at the end of the text. -/
  | here
  /-- At a line break with a backslash in front. -/
  | escapedBreak

/-- Read the characters of a quoted scalar up to a space or to the closing quote. -/
def quotedRun (single : Bool) :
    Nat → List Char → Cursor → Except YamlError (List Char × Cursor × RunEnd)
  | 0, acc, c => .ok (acc, c, .here)
  | fuel + 1, acc, c =>
      match c.rest with
      | [] => .ok (acc, c, .here)
      | ch :: rest =>
          if isGap ch || isBreak ch then .ok (acc, c, .here)
          else if single then
            if ch = '\'' then
              if rest.head? = some '\'' then quotedRun single fuel ('\'' :: acc) (c.skip 2)
              else .ok (acc, c, .here)
            else quotedRun single fuel (ch :: acc) (c.skip 1)
          else if ch = '"' then .ok (acc, c, .here)
          else if ch = '\\' then
            if breakNext rest && !rest.isEmpty then .ok (acc, c.skip 1, .escapedBreak)
            else
              match readEscape rest with
              | .ok (e, n) => quotedRun single fuel (e :: acc) (c.skip (1 + n))
              | .error e => .error e
          else quotedRun single fuel (ch :: acc) (c.skip 1)

/-- Read the words of a quoted scalar up to the closing quote. -/
def quotedWords (single : Bool) :
    Nat → List Char → Cursor → Except YamlError (List Char × Cursor)
  | 0, _, _ => .error .unfinishedScalar
  | fuel + 1, acc, c => do
      if c.atMark then .error .markInScalar
      else if c.rest.isEmpty then .error .unfinishedScalar
      else
        let (acc, c, runEnd) ← quotedRun single (c.size + 1) acc c
        match runEnd with
        | .escapedBreak =>
            let (_, c) := c.takeBreak
            let (gap, c) ← readGap 0 (c.size + 1) .escaped c
            quotedWords single fuel (gap.folded.reverse ++ acc) c
        | .here =>
            if c.rest.head? == some (if single then '\'' else '"') then return (acc, c.skip 1)
            else
              let (gap, c) ← readGap 0 (c.size + 1) .empty c
              quotedWords single fuel (gap.folded.reverse ++ acc) c

/-- Read a quoted scalar, its opening quote coming next. -/
def quotedScalar (single : Bool) (c : Cursor) : Except YamlError (String × Cursor) := do
  let (acc, c) ← quotedWords single (c.size + 1) [] (c.skip 1)
  return (String.ofList acc.reverse, c)

/-! ## §3. Block scalars -/

/-- What happens to the line breaks at the end of a block. -/
inductive Chomping where
  /-- They are dropped. -/
  | strip
  /-- The first one stays. -/
  | clip
  /-- All of them stay. -/
  | keep
  deriving DecidableEq

/-- The chomping that a sign asks for. -/
def chompingOf (c : Char) : Option Chomping :=
  if c = '+' then some .keep else if c = '-' then some .strip else none

/-- The indentation that a digit asks for. -/
def incrementOf (c : Char) : Except YamlError Nat :=
  if c = '0' then .error .badBlockHeader else .ok (c.toNat - '0'.toNat)

/-- Read the signs of a block's header: chomping and indentation, in either order. -/
def blockSigns (cs : List Char) : Except YamlError (Chomping × Nat × List Char) :=
  match cs with
  | [] => .ok (.clip, 0, [])
  | c :: rest =>
      match chompingOf c with
      | some chomping =>
          match rest with
          | d :: rest' =>
              if d.isDigit then (incrementOf d).map fun n => (chomping, n, rest')
              else .ok (chomping, 0, rest)
          | [] => .ok (chomping, 0, [])
      | none =>
          if c.isDigit then do
            let n ← incrementOf c
            match rest with
            | d :: rest' =>
                match chompingOf d with
                | some chomping => return (chomping, n, rest')
                | none => return (.clip, n, rest)
            | [] => return (.clip, n, [])
          else .ok (.clip, 0, cs)

/-- Move to the end of a line that may hold a comment and nothing else. -/
def skipComment (c : Cursor) : Option Cursor :=
  let c := c.skipWhile isGap
  let c := if c.rest.head? == some '#' then c.skipWhile (fun ch => !isBreak ch) else c
  if breakNext c.rest then some c else none

/-- Read indentation and empty lines.  `indent` is zero as long as it is not known; gives the
line breaks and the deepest indentation seen. -/
def blockBreaks (indent : Nat) :
    Nat → List Char → Nat → Cursor → Except YamlError (List Char × Nat × Cursor)
  | 0, breaks, deepest, c => .ok (breaks, deepest, c)
  | fuel + 1, breaks, deepest, c =>
      let spaces := (c.rest.takeWhile (· == ' ')).length
      let c := c.skip (if indent = 0 then spaces else min spaces (indent - c.column))
      let deepest := max deepest c.column
      if (indent == 0 || c.column < indent) && c.rest.head? == some '\t' then
        .error .tabInIndentation
      else if breakNext c.rest && !c.rest.isEmpty then
        let (b, c) := c.takeBreak
        blockBreaks indent fuel (breaks ++ b) deepest c
      else .ok (breaks, deepest, c)

/-- What was read of a block: its text, last character first, the break that ends its last
line and the breaks after that. -/
structure BlockRead where
  text : List Char
  lastBreak : List Char
  trailing : List Char
  cursor : Cursor

/-- Read the lines of a block.  In a folded block a single break between two lines that do not
start with a blank becomes a space. -/
def blockLines (literal : Bool) (indent : Nat) :
    Nat → Bool → BlockRead → Except YamlError BlockRead
  | 0, _, r => .ok r
  | fuel + 1, afterBlank, r =>
      if r.cursor.column = indent ∧ !r.cursor.rest.isEmpty then do
        let startsBlank := (r.cursor.rest.head?.map isGap).getD false
        let fold := !literal && r.lastBreak.head? == some '\n' && !afterBlank && !startsBlank
        let between :=
          if fold then (if r.trailing.isEmpty then [' '] else []) ++ r.trailing
          else r.lastBreak ++ r.trailing
        let line := lineOf r.cursor.rest
        let text := line.reverse ++ (between.reverse ++ r.text)
        let (lastBreak, c) := (r.cursor.skip line.length).takeBreak
        let (trailing, _, c) ← blockBreaks indent (c.size + 1) [] 0 c
        blockLines literal indent fuel startsBlank ⟨text, lastBreak, trailing, c⟩
      else .ok r

/-- Read a block scalar, its indicator coming next.  `parent` is the indentation of the
surrounding block. -/
def blockScalar (literal : Bool) (parent : Int) (c : Cursor) :
    Except YamlError (String × Cursor) := do
  let c := c.skip 1
  let header := word c.rest
  let (chomping, increment, rest) ← blockSigns header
  match skipComment (c.skipRead header rest) with
  | none => .error .badBlockHeader
  | some c =>
      let (_, c) := c.takeBreak
      let given : Nat :=
        if increment = 0 then 0
        else if 0 ≤ parent then parent.toNat + increment else increment
      let (trailing, deepest, c) ← blockBreaks given (c.size + 1) [] 0 c
      let indent := if given = 0 then max (max deepest (parent + 1).toNat) 1 else given
      let r ← blockLines literal indent (c.size + 1) false ⟨[], [], trailing, c⟩
      let tail := match chomping with
        | .strip => []
        | .clip => r.lastBreak
        | .keep => r.lastBreak ++ r.trailing
      return (String.ofList (r.text.reverse ++ tail), r.cursor)

end StepFlow.Yaml
