import StepFlow.Value
import StepFlow.Yaml.Tag

/-
  StepFlow.Yaml.Schema
  ────────────────────
  What the text of a YAML scalar stands for.

  A plain scalar may be null, a truth value or a number by its look; any other
  scalar is a text.  A tag of the core schema asks for one of these kinds, and a
  scalar that does not look like it is a mistake.
-/

namespace StepFlow.Yaml

/-! ## §1. Words -/

/-- The spellings of null. -/
def isNullWord (text : String) : Bool :=
  ["null", "Null", "NULL", "~"].contains text

/-- The truth value that a word stands for. -/
def boolWord? (text : String) : Option Bool :=
  if ["true", "True", "TRUE"].contains text then some true
  else if ["false", "False", "FALSE"].contains text then some false
  else none

/-! ## §2. Whole numbers -/

/-- The natural number that digits spell in a base up to 16. -/
def digits? (base : Nat) (cs : List Char) : Option Nat :=
  if cs.isEmpty then none
  else cs.foldlM (fun n c => (hexDigit? c).bind fun d =>
    if d < base then some (n * base + d) else none) 0

/-- Several decimal digits that start with a zero; they are no number. -/
def isPadded (cs : List Char) : Bool :=
  2 ≤ cs.length && cs.head? == some '0' && cs.all Char.isDigit

/-- Text without the sign in front. -/
def unsigned : List Char → List Char
  | c :: rest => if c = '+' ∨ c = '-' then rest else c :: rest
  | [] => []

/-- A natural number: hexadecimal, octal, binary or decimal. -/
def natural? : List Char → Option Nat
  | '0' :: 'x' :: rest => digits? 16 rest
  | '0' :: 'o' :: rest => digits? 8 rest
  | '0' :: 'b' :: rest => digits? 2 rest
  | cs => if isPadded cs then none else digits? 10 cs

/-- A whole number with or without a sign.  Beyond 128 bits a number is not read as whole. -/
def whole? (cs : List Char) : Option Int := do
  let n ← natural? (unsigned cs)
  if cs.head? = some '-' then
    if n ≤ twoPow 127 then some (-(n : Int)) else none
  else if n < twoPow 128 then some n
  else none

/-- The value of a whole number; one that needs more than 64 bits is a mistake. -/
def wholeValue (i : Int) : Except YamlError Value :=
  if Number.intInRange i then .ok (.num (.int i)) else .error .numberOutOfRange

/-! ## §3. Other numbers -/

/-- The exponent of a decimal, its mark included. -/
def exponent? : List Char → Option Int
  | [] => some 0
  | mark :: rest =>
      if mark = 'e' ∨ mark = 'E' then do
        let n ← digits? 10 (unsigned rest)
        if rest.head? = some '-' then some (-(n : Int)) else some n
      else none

/-- The double of a decimal; `none` for one that is too large. -/
def decimal? (cs : List Char) : Option Binary64 := do
  let body := unsigned cs
  let whole := body.takeWhile Char.isDigit
  let rest := body.dropWhile Char.isDigit
  let (fraction, rest) := match rest with
    | '.' :: rest => (rest.takeWhile Char.isDigit, rest.dropWhile Char.isDigit)
    | _ => ([], rest)
  let digits ← digits? 10 (whole ++ fraction)
  let exponent ← exponent? rest
  let x := Binary64.ofDecimal (cs.head? = some '-') digits (exponent - fraction.length)
  if x.isInfinite then none else some x

/-- The spellings of what is no finite number. -/
def isNonFiniteWord (text : String) : Bool :=
  [".inf", ".Inf", ".INF", "+.inf", "+.Inf", "+.INF", "-.inf", "-.Inf", "-.INF",
    ".nan", ".NaN", ".NAN"].contains text

/-- The value of a number that is not whole.  No value stands for infinity or for what is not
a number, so they are null. -/
def floatValue? (text : String) : Option Value :=
  if isNonFiniteWord text then some .null
  else (decimal? text.toList).map fun x => .num (.float x)

/-! ## §4. Scalars -/

/-- The value of a plain scalar without a tag. -/
def plainValue (text : String) : Except YamlError Value :=
  if text.isEmpty || isNullWord text then .ok .null
  else match boolWord? text with
    | some b => .ok (.bool b)
    | none => match whole? text.toList with
      | some i => wholeValue i
      | none =>
          if isPadded (unsigned text.toList) then .ok (.str text)
          else .ok ((floatValue? text).getD (.str text))

/-- The value of a scalar without a tag. -/
def untaggedValue (text : String) (plain : Bool) : Except YamlError Value :=
  if plain then plainValue text else .ok (.str text)

/-- The value of a scalar with a tag.  Local tags stand for no value, and one that is marked as
local without being so counts as no tag. -/
def taggedValue (tag : Tag) (text : String) (plain : Bool) : Except YamlError Value :=
  if tag.isLocal then .error .taggedValue
  else if tag.isMarked then untaggedValue text plain
  else if tag = .core "bool" then
    match boolWord? text with
    | some b => .ok (.bool b)
    | none => .error .badScalar
  else if tag = .core "int" then
    match whole? text.toList with
    | some i => wholeValue i
    | none => .error .badScalar
  else if tag = .core "float" then
    match floatValue? text with
    | some v => .ok v
    | none => .error .badScalar
  else if tag = .core "null" then
    if isNullWord text then .ok .null else .error .badScalar
  else .ok (.str text)

/-- The value of a scalar. -/
def scalarValue (tag : Option Tag) (text : String) (plain : Bool) : Except YamlError Value :=
  match tag with
  | some tag => taggedValue tag text plain
  | none => untaggedValue text plain

end StepFlow.Yaml
