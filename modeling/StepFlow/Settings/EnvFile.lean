import StepFlow.Dict
import StepFlow.Text.Alphanumeric
import StepFlow.Text.Blank

/-
  StepFlow.Settings.EnvFile
  ─────────────────────────
  Files of environment variables, one `NAME=value` a line.

  A value may be quoted, run over several lines inside its quotes, end in a
  comment and mention variables as `$NAME` or `${NAME}`.  A variable that is
  already set keeps its value.  Reading stops at the first malformed line; the
  variables before it stay set.
-/

namespace StepFlow

/-- Environment variables by name. -/
abbrev Environment := Dict String

namespace EnvFile

/-! ## §1. Lines -/

/-- Where in a line the reader is, as far as quotes go. -/
inductive Quoting where
  /-- Outside quotes. -/
  | plain
  /-- Outside quotes, after white space. -/
  | spaced
  /-- After a backslash outside quotes. -/
  | escaped
  /-- Inside single quotes. -/
  | single
  /-- After a backslash inside single quotes. -/
  | singleEscaped
  /-- Inside double quotes. -/
  | double
  /-- After a backslash inside double quotes. -/
  | doubleEscaped
  deriving DecidableEq

/-- What one character does to the quoting. -/
def Quoting.next (q : Quoting) (c : Char) : Quoting :=
  match q with
  | .escaped => .plain
  | .single => if c = '\\' then .singleEscaped else if c = '\'' then .plain else .single
  | .singleEscaped => .single
  | .double => if c = '\\' then .doubleEscaped else if c = '"' then .plain else .double
  | .doubleEscaped => .double
  | .plain =>
      if Text.isBlank c && c != '\n' && c != '\r' then .spaced
      else if c = '\\' then .escaped
      else if c = '"' then .double
      else if c = '\'' then .single
      else .plain
  | .spaced =>
      if c = '\\' then .escaped
      else if c = '"' then .double
      else if c = '\'' then .single
      else .plain

/-- How a line of the file ends. -/
inductive LineEnd where
  /-- At a comment; what stands before it, last character first. -/
  | comment (before : List Char)
  /-- With the given quoting. -/
  | quoting (q : Quoting)

/-- Read a line of the file up to its end or its comment. -/
def scanLine : Quoting → List Char → List Char → LineEnd
  | q, _, [] => .quoting q
  | q, acc, c :: rest =>
      if q = .spaced ∧ c = '#' then .comment acc
      else scanLine (q.next c) (c :: acc) rest

/-- A line as it ends in the file, and the rest. -/
def takeLine : List Char → List Char × List Char
  | [] => ([], [])
  | c :: rest =>
      if c = '\n' then (['\n'], rest)
      else
        let (line, rest) := takeLine rest
        (c :: line, rest)

/-- A line without its end. -/
def chomp (line : List Char) : List Char :=
  match line.reverse with
  | '\n' :: '\r' :: rest => rest.reverse
  | '\n' :: rest => rest.reverse
  | _ => line

/-- One entry of the file, which may run over several lines. -/
inductive Entry where
  /-- The text of an entry. -/
  | text (cs : List Char)
  /-- The file ends inside an entry. -/
  | unfinished

/-- The entries of a file.  `sofar` is what was read of the current one; each round takes a
line, so the length of the file is fuel enough. -/
def entriesFrom : Nat → List Char → Quoting → List Char → List Entry
  | 0, _, _, _ => []
  | _ + 1, _, q, [] => if q = .plain then [] else [.unfinished]
  | fuel + 1, sofar, q, cs =>
      let (line, rest) := takeLine cs
      let text := sofar ++ line
      if (text.dropWhile Text.isBlank).head? = some '#' then entriesFrom fuel [] .plain rest
      else match scanLine q [] line with
        | .comment before => .text (sofar ++ before.reverse) :: entriesFrom fuel [] .plain rest
        | .quoting .plain => .text (chomp text) :: entriesFrom fuel [] .plain rest
        | .quoting q => entriesFrom fuel text q rest

/-- The entries of a file; a mark of the byte order in front is ignored. -/
def entries (text : String) : List Entry :=
  let cs := match text.toList with
    | c :: rest => if c.toNat = 0xFEFF then rest else c :: rest
    | [] => []
  entriesFrom (cs.length + 1) [] .plain cs

/-! ## §2. Values -/

/-- How a mention of a variable is being read. -/
inductive Mention where
  /-- None is. -/
  | none
  /-- After a `$`. -/
  | bare
  /-- After `${`. -/
  | braced
  deriving DecidableEq

/-- Where in a value the reader is. -/
structure ValueState where
  single : Bool
  double : Bool
  escaped : Bool
  /-- Only a comment may follow. -/
  ended : Bool
  mention : Mention
  /-- The name being read, last character first. -/
  name : List Char
  /-- The value so far, last character first. -/
  output : List Char

/-- At the start of a value. -/
def ValueState.start : ValueState := ⟨false, false, false, false, .none, [], []⟩

/-- Put the mentioned variable's value in place of its mention; a variable that is not set has
none. -/
def ValueState.substitute (env : Environment) (s : ValueState) : ValueState :=
  let value := (Dict.get? env (String.ofList s.name.reverse)).getD ""
  { s with name := [], output := value.toList.reverse ++ s.output }

/-- Add a character to the value. -/
def ValueState.push (s : ValueState) (c : Char) : ValueState :=
  { s with output := c :: s.output }

/-- Read a character while a variable's name is being read. -/
def ValueState.mentionStep (env : Environment) (s : ValueState) (c : Char) : ValueState :=
  if Text.isAlphanumeric c then { s with name := c :: s.name }
  else if s.mention = .braced then
    if c = '}' then { s with mention := .none }.substitute env
    else { s with name := c :: s.name }
  else if c = '{' ∧ s.name = [] then { s with mention := .braced }
  else if c = '$' then s.substitute env
  else ({ s with mention := .none }.substitute env).push c

/-- Read a value; `none` if it is malformed. -/
def readValue (env : Environment) : ValueState → List Char → Option String
  | s, [] =>
      if s.mention = .braced || s.single || s.double then none
      else some (String.ofList (s.substitute env).output.reverse)
  | s, c :: rest =>
      if s.ended then
        if c = ' ' ∨ c = '\t' then readValue env s rest
        else if c = '#' then readValue env s []
        else none
      else if s.escaped then
        if c = '\\' ∨ c = '\'' ∨ c = '"' ∨ c = '$' ∨ c = ' ' then
          readValue env ({ s with escaped := false }.push c) rest
        else if c = 'n' then readValue env ({ s with escaped := false }.push '\n') rest
        else none
      else if s.single then
        if c = '\'' then readValue env { s with single := false } rest
        else readValue env (s.push c) rest
      else if s.mention ≠ .none then readValue env (s.mentionStep env c) rest
      else if c = '$' then readValue env { s with mention := .bare } rest
      else if s.double then
        if c = '"' then readValue env { s with double := false } rest
        else if c = '\\' then readValue env { s with escaped := true } rest
        else readValue env (s.push c) rest
      else if c = '\'' then readValue env { s with single := true } rest
      else if c = '"' then readValue env { s with double := true } rest
      else if c = '\\' then readValue env { s with escaped := true } rest
      else if c = ' ' ∨ c = '\t' then readValue env { s with ended := true } rest
      else readValue env (s.push c) rest
termination_by _ cs => cs.length

/-! ## §3. Entries -/

/-- The characters a name may hold. -/
def isNameChar (c : Char) : Bool :=
  c.isAlphanum || c == '_' || c == '.'

/-- Read a name: a letter or an underscore first. -/
def readName (cs : List Char) : Option (String × List Char) :=
  match cs with
  | [] => none
  | c :: _ =>
      if c.isAlpha || c == '_' then
        some (String.ofList (cs.takeWhile isNameChar), cs.dropWhile isNameChar)
      else none

/-- Skip white space. -/
def skipBlank (cs : List Char) : List Char :=
  cs.dropWhile Text.isBlank

/-- A text without the white space at its end. -/
def trimEnd (cs : List Char) : List Char :=
  (cs.reverse.dropWhile Text.isBlank).reverse

/-- Read the equals sign. -/
def readEquals : List Char → Option (List Char)
  | '=' :: rest => some rest
  | _ => none

/-- Read the name of an entry and its equals sign, with or without `export` in front. -/
def readHead (cs : List Char) : Option (String × List Char) := do
  let (name, rest) ← readName cs
  let rest := skipBlank rest
  match readEquals rest with
  | some rest => return (name, rest)
  | none =>
      if name = "export" then
        let (name, rest) ← readName rest
        let rest ← readEquals (skipBlank rest)
        return (name, rest)
      else none

/-- What an entry says. -/
inductive Assignment where
  /-- Nothing: it is empty or a comment. -/
  | nothing
  /-- A variable has a value. -/
  | value (name value : String)
  /-- It is malformed. -/
  | malformed

/-- Read an entry.  White space around it has no meaning. -/
def readEntry (env : Environment) (cs : List Char) : Assignment :=
  match skipBlank (trimEnd cs) with
  | [] => .nothing
  | c :: cs =>
      if c = '#' then .nothing
      else match readHead (c :: cs) with
        | none => .malformed
        | some (name, rest) =>
            let rest := skipBlank rest
            if rest.isEmpty || rest.head? == some '#' then .value name ""
            else match readValue env .start rest with
              | some value => .value name value
              | none => .malformed

/-- Set the variables of some entries, up to the first malformed one.  Also tells whether all
were well formed. -/
def loadEntries : List Entry → Environment → Environment × Bool
  | [], env => (env, true)
  | .unfinished :: _, env => (env, false)
  | .text cs :: rest, env =>
      match readEntry env cs with
      | .nothing => loadEntries rest env
      | .malformed => (env, false)
      | .value name value =>
          loadEntries rest (if Dict.contains env name then env else Dict.insert env name value)

/-- Set the variables of a file that are not set yet. -/
def load (text : String) (env : Environment) : Environment × Bool :=
  loadEntries (entries text) env

end EnvFile

end StepFlow
