import StepFlow.Text.Bytes
import StepFlow.Value

/-
  StepFlow.Json.Reader
  ────────────────────
  Reading JSON text, with the place of the first error.

  The reader walks the characters once.  An error remembers how many bytes of
  the text were still unread; the line and the column, which counts bytes, are
  worked out from that at the end.  Lists and objects may be nested 127 deep.
  Of a key that occurs twice the last value counts, in the first place.
-/

namespace StepFlow.Json

/-! ## §1. Errors -/

/-- Why a text is not JSON. -/
inductive Cause where
  /-- The text ends inside a list. -/
  | unfinishedList
  /-- The text ends inside an object. -/
  | unfinishedObject
  /-- The text ends inside a string. -/
  | unfinishedString
  /-- The text ends where a value should stand. -/
  | unfinishedValue
  /-- A key is not followed by a colon. -/
  | expectedColon
  /-- A list item is followed by neither a comma nor the end of the list. -/
  | expectedItemEnd
  /-- A member is followed by neither a comma nor the end of the object. -/
  | expectedMemberEnd
  /-- A word starts like `true`, `false` or `null` and goes on differently. -/
  | expectedWord
  /-- No value starts with this character. -/
  | expectedValue
  /-- An unknown escape. -/
  | invalidEscape
  /-- A malformed number. -/
  | invalidNumber
  /-- A number too large for a double. -/
  | numberOutOfRange
  /-- A control character inside a string. -/
  | controlCharacter
  /-- An object key is not a string. -/
  | keyNotString
  /-- A surrogate without its partner. -/
  | loneSurrogate
  /-- A leading surrogate that no second escape follows. -/
  | unfinishedEscape
  /-- A comma before the end of a list or an object. -/
  | trailingComma
  /-- Something follows the value. -/
  | trailingCharacters
  /-- Lists and objects are nested too deep. -/
  | tooDeep
  deriving DecidableEq, Repr

/-- What a cause says. -/
def Cause.message : Cause → String
  | .unfinishedList => "EOF while parsing a list"
  | .unfinishedObject => "EOF while parsing an object"
  | .unfinishedString => "EOF while parsing a string"
  | .unfinishedValue => "EOF while parsing a value"
  | .expectedColon => "expected `:`"
  | .expectedItemEnd => "expected `,` or `]`"
  | .expectedMemberEnd => "expected `,` or `\x7d`"
  | .expectedWord => "expected ident"
  | .expectedValue => "expected value"
  | .invalidEscape => "invalid escape"
  | .invalidNumber => "invalid number"
  | .numberOutOfRange => "number out of range"
  | .controlCharacter => "control character (\\u0000-\\u001F) found while parsing a string"
  | .keyNotString => "key must be a string"
  | .loneSurrogate => "lone leading surrogate in hex escape"
  | .unfinishedEscape => "unexpected end of hex escape"
  | .trailingComma => "trailing comma"
  | .trailingCharacters => "trailing characters"
  | .tooDeep => "recursion limit exceeded"

/-- An error and its place. -/
structure SyntaxError where
  cause : Cause
  line : Nat
  column : Nat
  deriving DecidableEq, Repr

/-- What an error says, with its place. -/
def SyntaxError.message (e : SyntaxError) : String :=
  e.cause.message ++ " at line " ++ Number.intText e.line ++ " column " ++ Number.intText e.column

/-- An error while reading: its cause, and the bytes unread at its place. -/
structure Stop where
  cause : Cause
  unread : Nat

/-- A reading step gives a result and the characters that follow it. -/
abbrev Read (α : Type) := Except Stop (α × List Char)

/-- Stop in front of `rest`. -/
def stop {α : Type} (cause : Cause) (rest : List Char) : Except Stop α :=
  .error ⟨cause, Text.byteLength rest⟩

/-- Stop so many bytes into `rest`, after the bytes that were looked at. -/
def stopAfter {α : Type} (cause : Cause) (rest : List Char) (bytes : Nat) : Except Stop α :=
  .error ⟨cause, Text.byteLength rest - bytes⟩

/-- The line and the column at a byte offset. -/
def locate (offset : Nat) : List Char → Nat → Nat → Nat → Nat × Nat
  | [], _, line, start => (line, offset - start)
  | c :: cs, consumed, line, start =>
      let next := consumed + c.utf8Size
      if next ≤ offset then
        if c = '\n' then locate offset cs next (line + 1) next
        else locate offset cs next line start
      else (line, offset - start)

/-! ## §2. Words and numbers -/

/-- The characters between tokens. -/
def isSpace (c : Char) : Bool :=
  c == ' ' || c == '\n' || c == '\t' || c == '\r'

/-- Skip the space in front of a token. -/
def skipSpace (cs : List Char) : List Char :=
  cs.dropWhile isSpace

/-- Read the rest of a word. -/
def readWord (v : Value) : List Char → List Char → Read Value
  | [], cs => .ok (v, cs)
  | _ :: _, [] => stop .unfinishedValue []
  | w :: word, c :: cs => if c = w then readWord v word cs else stopAfter .expectedWord (c :: cs) 1

/-- The largest significand: 64 bits. -/
def maxSignificand : Nat := twoPow 64 - 1

/-- Append digits to a significand as long as it has 64 bits.  Gives the significand and
how many digits it took. -/
def absorb : Nat → List Char → Nat × Nat
  | significand, [] => (significand, 0)
  | significand, d :: ds =>
      let next := significand * 10 + (d.toNat - '0'.toNat)
      if maxSignificand < next then (significand, 0)
      else
        let (result, taken) := absorb next ds
        (result, taken + 1)

/-- The number `± significand · 10 ^ exponent`. -/
def fromParts (negative : Bool) (significand : Nat) (exponent : Int) (rest : List Char) :
    Read Number :=
  match Binary64.scale significand exponent with
  | some x => .ok (.float (x.withSign negative), rest)
  | none => stop .numberOutOfRange rest

/-- Whether the digits of an exponent pass `2 ^ 31 - 1`; if so, what follows the digit that does it. -/
def exponentOverflow : Nat → List Char → Option (List Char)
  | _, [] => none
  | value, d :: ds =>
      let next := value * 10 + (d.toNat - '0'.toNat)
      if twoPow 31 - 1 < next then some ds else exponentOverflow next ds

/-- The natural number that digits spell. -/
def digitsValue (ds : List Char) : Nat :=
  ds.foldl (fun n d => n * 10 + (d.toNat - '0'.toNat)) 0

/-- An exponent kept within 32 bits. -/
def clampExponent (e : Int) : Int :=
  max (-(twoPow 31 : Int)) (min e ((twoPow 31 : Int) - 1))

/-- Read an exponent, after its mark. -/
def readExponent (negative : Bool) (significand : Nat) (start : Int) (cs : List Char) :
    Read Number :=
  let (down, cs) := match cs with
    | '+' :: rest => (false, rest)
    | '-' :: rest => (true, rest)
    | _ => (false, cs)
  match cs with
  | [] => stop .unfinishedValue []
  | c :: _ =>
      if !c.isDigit then stopAfter .invalidNumber cs 1
      else
        let ds := cs.takeWhile Char.isDigit
        let rest := cs.dropWhile Char.isDigit
        match exponentOverflow 0 ds with
        | some unreadDigits =>
            if significand ≠ 0 ∧ !down then stop .numberOutOfRange (unreadDigits ++ rest)
            else .ok (.float (Binary64.ofRatio negative 0 1), rest)
        | none =>
            let e : Int := digitsValue ds
            fromParts negative significand (clampExponent (if down then start - e else start + e)) rest

/-- Read an exponent if its mark comes next. -/
def readScale (negative : Bool) (significand : Nat) (exponent : Int) (cs : List Char) :
    Read Number :=
  match cs with
  | 'e' :: rest => readExponent negative significand exponent rest
  | 'E' :: rest => readExponent negative significand exponent rest
  | _ => fromParts negative significand exponent cs

/-- Read a fraction, after its point. -/
def readFraction (negative : Bool) (significand : Nat) (exponent : Int) (cs : List Char) :
    Read Number :=
  let ds := cs.takeWhile Char.isDigit
  let rest := cs.dropWhile Char.isDigit
  if ds.isEmpty then
    if rest.isEmpty then stopAfter .unfinishedValue rest 1 else stopAfter .invalidNumber rest 1
  else
    let (significand, taken) := absorb significand ds
    readScale negative significand (exponent - taken) rest

/-- The number of an integer literal.  A minus in front of zero, and an integer below
`-2 ^ 63`, give a double. -/
def integer (negative : Bool) (n : Nat) : Number :=
  if negative then
    if 1 ≤ n ∧ n ≤ twoPow 63 then .int (-(n : Int)) else .float (Binary64.ofRatio true n 1)
  else .int n

/-- Read a number, after its sign. -/
def readNumber (negative : Bool) (cs : List Char) : Read Number :=
  match cs with
  | [] => stop .unfinishedValue []
  | c :: after =>
      if !c.isDigit then stopAfter .invalidNumber cs 1
      else if c = '0' ∧ (after.head?.map Char.isDigit) = some true then
        stopAfter .invalidNumber after 1
      else
        let ds := cs.takeWhile Char.isDigit
        let rest := cs.dropWhile Char.isDigit
        let (significand, taken) := absorb 0 ds
        let dropped : Nat := ds.length - taken
        match rest with
        | '.' :: fraction => readFraction negative significand dropped fraction
        | 'e' :: exponent => readExponent negative significand dropped exponent
        | 'E' :: exponent => readExponent negative significand dropped exponent
        | _ =>
            if dropped = 0 then .ok (integer negative significand, rest)
            else fromParts negative significand dropped rest

/-! ## §3. Strings -/

/-- The value of a hexadecimal digit. -/
def hexValue? (c : Char) : Option Nat :=
  if '0' ≤ c ∧ c ≤ '9' then some (c.toNat - '0'.toNat)
  else if 'a' ≤ c ∧ c ≤ 'f' then some (c.toNat - 'a'.toNat + 10)
  else if 'A' ≤ c ∧ c ≤ 'F' then some (c.toNat - 'A'.toNat + 10)
  else none

/-- Read four hexadecimal digits. -/
def readHex4 (cs : List Char) : Read Nat :=
  if Text.byteLength (cs.take 4) < 4 then stop .unfinishedString []
  else match cs with
    | a :: b :: c :: d :: rest =>
        match hexValue? a, hexValue? b, hexValue? c, hexValue? d with
        | some a, some b, some c, some d => .ok (((a * 16 + b) * 16 + c) * 16 + d, rest)
        | _, _, _, _ => stopAfter .invalidEscape cs 4
    | _ => stopAfter .invalidEscape cs 4

/-- Read the code of an escape, after `\u`; a leading surrogate takes a second escape with it. -/
def readUnicode (cs : List Char) : Except Stop (Char × List Char) := do
  let (n, rest) ← readHex4 cs
  if 0xDC00 ≤ n ∧ n ≤ 0xDFFF then stop .loneSurrogate rest
  else if n < 0xD800 ∨ 0xDBFF < n then return (Char.ofNat n, rest)
  else match rest with
    | [] => stop .unfinishedString []
    | '\\' :: [] => stop .unfinishedString []
    | '\\' :: 'u' :: second => do
        let (m, rest) ← readHex4 second
        if m < 0xDC00 ∨ 0xDFFF < m then stop .loneSurrogate rest
        else return (Char.ofNat ((n - 0xD800) * 1024 + (m - 0xDC00) + 0x10000), rest)
    | '\\' :: rest => stopAfter .unfinishedEscape rest 1
    | _ => stopAfter .unfinishedEscape rest 1

/-- Read an escape, after its backslash. -/
def readEscape : List Char → Read Char
  | [] => stop .unfinishedString []
  | c :: rest =>
      if c = '"' ∨ c = '\\' ∨ c = '/' then .ok (c, rest)
      else if c = 'b' then .ok (Char.ofNat 8, rest)
      else if c = 'f' then .ok (Char.ofNat 12, rest)
      else if c = 'n' then .ok ('\n', rest)
      else if c = 'r' then .ok ('\r', rest)
      else if c = 't' then .ok ('\t', rest)
      else if c = 'u' then readUnicode rest
      else stopAfter .invalidEscape (c :: rest) 1

/-- Read a string, after its opening quote.  `acc` holds what was read, last character first;
each round reads at least one character. -/
def readString : Nat → List Char → List Char → Read String
  | 0, _, cs => stop .unfinishedString cs
  | _ + 1, _, [] => stop .unfinishedString []
  | fuel + 1, acc, c :: rest =>
      if c = '"' then .ok (String.ofList acc.reverse, rest)
      else if c = '\\' then
        match readEscape rest with
        | .ok (e, rest) => readString fuel (e :: acc) rest
        | .error e => .error e
      else if c.toNat < 32 then stop .controlCharacter rest
      else readString fuel (c :: acc) rest

/-! ## §4. Values -/

/-- How deep lists and objects may be nested, plus one. -/
def depthLimit : Nat := 128

mutual
/-- Read a value at the given depth.  Each round reads at least one character. -/
def readValue : Nat → Nat → List Char → Read Value
  | 0, _, cs => stop .unfinishedValue cs
  | fuel + 1, depth, cs =>
      match skipSpace cs with
      | [] => stop .unfinishedValue []
      | c :: rest =>
          if c = 'n' then readWord .null ['u', 'l', 'l'] rest
          else if c = 't' then readWord (.bool true) ['r', 'u', 'e'] rest
          else if c = 'f' then readWord (.bool false) ['a', 'l', 's', 'e'] rest
          else if c = '-' then (readNumber true rest).map fun (n, rest) => (.num n, rest)
          else if c.isDigit then (readNumber false (c :: rest)).map fun (n, rest) => (.num n, rest)
          else if c = '"' then (readString fuel [] rest).map fun (s, rest) => (.str s, rest)
          else if c = '[' then
            if depth ≤ 1 then stopAfter .tooDeep (c :: rest) 1
            else readItems fuel (depth - 1) true [] rest
          else if c = '{' then
            if depth ≤ 1 then stopAfter .tooDeep (c :: rest) 1
            else readMembers fuel (depth - 1) true [] rest
          else stopAfter .expectedValue (c :: rest) 1
/-- Read the items of a list up to its end; `acc` holds those read, last one first. -/
def readItems : Nat → Nat → Bool → List Value → List Char → Read Value
  | 0, _, _, _, cs => stop .unfinishedList cs
  | fuel + 1, depth, first, acc, cs =>
      match skipSpace cs with
      | [] => stop .unfinishedList []
      | c :: rest =>
          if c = ']' then .ok (.arr acc.reverse, rest)
          else if first then
            match readValue fuel depth (c :: rest) with
            | .ok (v, rest) => readItems fuel depth false (v :: acc) rest
            | .error e => .error e
          else if c = ',' then
            match skipSpace rest with
            | [] => stop .unfinishedValue []
            | next :: after =>
                if next = ']' then stopAfter .trailingComma (next :: after) 1
                else match readValue fuel depth (next :: after) with
                  | .ok (v, rest) => readItems fuel depth false (v :: acc) rest
                  | .error e => .error e
          else stopAfter .expectedItemEnd (c :: rest) 1
/-- Read the members of an object up to its end. -/
def readMembers : Nat → Nat → Bool → State → List Char → Read Value
  | 0, _, _, _, cs => stop .unfinishedObject cs
  | fuel + 1, depth, first, acc, cs =>
      match skipSpace cs with
      | [] => stop .unfinishedObject []
      | c :: rest =>
          if c = '}' then .ok (.obj acc, rest)
          else if first then
            if c = '"' then readMember fuel depth acc rest
            else stopAfter .keyNotString (c :: rest) 1
          else if c = ',' then
            match skipSpace rest with
            | [] => stop .unfinishedValue []
            | next :: after =>
                if next = '"' then readMember fuel depth acc after
                else if next = '}' then stopAfter .trailingComma (next :: after) 1
                else stopAfter .keyNotString (next :: after) 1
          else stopAfter .expectedMemberEnd (c :: rest) 1
/-- Read a member, after the quote that opens its key, and then the others. -/
def readMember : Nat → Nat → State → List Char → Read Value
  | 0, _, _, cs => stop .unfinishedObject cs
  | fuel + 1, depth, acc, cs =>
      match readString fuel [] cs with
      | .error e => .error e
      | .ok (key, rest) =>
          match skipSpace rest with
          | [] => stop .unfinishedObject []
          | c :: rest =>
              if c = ':' then
                match readValue fuel depth rest with
                | .ok (v, rest) => readMembers fuel depth false (Dict.insert acc key v) rest
                | .error e => .error e
              else stopAfter .expectedColon (c :: rest) 1
end

/-- Read a text that holds one value and nothing else. -/
def readText (cs : List Char) : Except Stop Value := do
  let (v, rest) ← readValue (3 * cs.length + 3) depthLimit cs
  match skipSpace rest with
  | [] => return v
  | rest => stopAfter .trailingCharacters rest 1

/-- The value of a JSON text, or why and where it is not one. -/
def read (text : String) : Except SyntaxError Value :=
  let cs := text.toList
  match readText cs with
  | .ok v => .ok v
  | .error e =>
      let (line, column) := locate (Text.byteLength cs - e.unread) cs 0 1 0
      .error ⟨e.cause, line, column⟩

end StepFlow.Json
