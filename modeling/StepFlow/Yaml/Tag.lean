import StepFlow.Text.Bytes
import StepFlow.Yaml.Scalar

/-
  StepFlow.Yaml.Tag
  ─────────────────
  Tags: what kind of node its author says a node is.

  A tag is a sequence of bytes and not of characters, since its percent escapes
  spell bytes.  These have to start and go on like UTF-8, and still need not be
  the form of any text.  A zero byte ends the part of the tag that it stands in.
  A tag that starts with an exclamation mark is local: only its author knows
  what it means.
-/

namespace StepFlow.Yaml

/-- A tag, or a part of one. -/
structure Tag where
  bytes : List UInt8
  deriving DecidableEq, Repr

namespace Tag

/-- The tag that bytes spell; a zero byte ends it. -/
def ofBytes (bytes : List UInt8) : Tag :=
  ⟨bytes.takeWhile (· != 0)⟩

/-- The tag that a text spells. -/
def ofText (text : String) : Tag :=
  .ofBytes (Text.bytesOf text.toList)

/-- A tag in two parts. -/
def append (a b : Tag) : Tag :=
  ⟨a.bytes ++ b.bytes⟩

/-- The byte of the exclamation mark. -/
def markByte : UInt8 := 0x21

/-- Whether a tag is marked as local. -/
def isMarked (t : Tag) : Bool :=
  t.bytes.head? == some markByte

/-- Whether a tag is local: it is marked, and the rest of it is a text. -/
def isLocal (t : Tag) : Bool :=
  t.isMarked && Text.isUtf8 t.bytes.tail

/-- The tag of the core schema with the given name. -/
def core (name : String) : Tag :=
  .ofText ("tag:yaml.org,2002:" ++ name)

end Tag

/-! ## §1. Percent escapes -/

/-- How many bytes the UTF-8 form of a character has, by its first byte. -/
def utf8Width (first : Nat) : Option Nat :=
  if first < 0x80 then some 1
  else if 0xC0 ≤ first ∧ first < 0xE0 then some 2
  else if 0xE0 ≤ first ∧ first < 0xF0 then some 3
  else if 0xF0 ≤ first ∧ first < 0xF8 then some 4
  else none

/-- Read a byte given as a percent sign and two hexadecimal digits. -/
def percentByte : List Char → Except YamlError (Nat × List Char)
  | '%' :: a :: b :: rest =>
      match hexDigit? a, hexDigit? b with
      | some a, some b => .ok (a * 16 + b, rest)
      | _, _ => .error .badTag
  | _ => .error .badTag

/-- Read so many bytes that go on with a character. -/
def trailingBytes : Nat → List Char → Except YamlError (List UInt8 × List Char)
  | 0, cs => .ok ([], cs)
  | n + 1, cs => do
      let (byte, rest) ← percentByte cs
      if 0x80 ≤ byte ∧ byte < 0xC0 then
        let (bytes, rest) ← trailingBytes n rest
        return (.ofNat byte :: bytes, rest)
      else .error .badTag

/-- Read the bytes of an escaped character, its percent sign coming next. -/
def percentEscape (cs : List Char) : Except YamlError (List UInt8 × List Char) := do
  let (first, rest) ← percentByte cs
  match utf8Width first with
  | some width =>
      let (bytes, rest) ← trailingBytes (width - 1) rest
      return (.ofNat first :: bytes, rest)
  | none => .error .badTag

/-! ## §2. Handles and suffixes -/

/-- The characters of a tag beside those of names; flow indicators only between angle
brackets. -/
def isTagChar (verbatim : Bool) (c : Char) : Bool :=
  isNameChar c || ";/?:@&=+$.%!~*'()".toList.contains c || (verbatim && ",[]".toList.contains c)

/-- Read the bytes of a tag. -/
def tagBytes (verbatim : Bool) : Nat → List Char → Except YamlError (List UInt8 × List Char)
  | 0, cs => .ok ([], cs)
  | _ + 1, [] => .ok ([], [])
  | fuel + 1, c :: rest =>
      if c = '%' then do
        let (escaped, rest) ← percentEscape (c :: rest)
        let (bytes, rest) ← tagBytes verbatim fuel rest
        return (escaped ++ bytes, rest)
      else if isTagChar verbatim c then do
        let (bytes, rest) ← tagBytes verbatim fuel rest
        return (Text.bytesOf [c] ++ bytes, rest)
      else .ok ([], c :: rest)

/-- Read a tag's handle: an exclamation mark, name characters, and perhaps another one. -/
def tagHandle (cs : List Char) : Except YamlError (List Char × List Char) :=
  match cs with
  | '!' :: rest =>
      let name := rest.takeWhile isNameChar
      match rest.dropWhile isNameChar with
      | '!' :: rest => .ok ('!' :: (name ++ ['!']), rest)
      | rest => .ok ('!' :: name, rest)
  | _ => .error .badTag

/-- Whether a handle is closed by an exclamation mark of its own. -/
def isClosedHandle (handle : List Char) : Bool :=
  2 ≤ handle.length && handle.getLast? == some '!'

/-- Read a tag's handle and suffix, its first exclamation mark coming next.  Without a suffix
the exclamation mark is the whole tag. -/
def tagParts (cs : List Char) : Except YamlError (String × Tag × List Char) := do
  match cs with
  | '!' :: '<' :: rest =>
      let (suffix, rest) ← tagBytes true (rest.length + 1) rest
      match suffix, rest with
      | _ :: _, '>' :: rest => return ("", .ofBytes suffix, rest)
      | _, _ => .error .badTag
  | _ =>
      let (handle, rest) ← tagHandle cs
      let (bytes, rest) ← tagBytes false (rest.length + 1) rest
      if isClosedHandle handle then
        if bytes.isEmpty then .error .badTag
        else return (String.ofList handle, .ofBytes bytes, rest)
      else
        let suffix := Tag.ofBytes (Text.bytesOf (handle.drop 1) ++ bytes)
        if suffix.bytes.isEmpty then return ("", .ofText "!", rest)
        else return ("!", suffix, rest)

end StepFlow.Yaml
