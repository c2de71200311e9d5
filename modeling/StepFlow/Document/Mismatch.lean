import StepFlow.Json.Writer

/-
  StepFlow.Document.Mismatch
  ──────────────────────────
  Why a value does not have the shape a document asks for.
-/

namespace StepFlow

/-- The shapes that parts of a document have. -/
inductive Shape where
  /-- A step. -/
  | step
  /-- An object. -/
  | map
  /-- A list. -/
  | sequence
  /-- A text. -/
  | text
  /-- A truth value. -/
  | truth
  /-- Nothing. -/
  | unit
  /-- A name, alone or as the only key of an object. -/
  | choice
  deriving DecidableEq, Repr

/-- How a message names a shape. -/
def Shape.name : Shape → String
  | .step => "struct Step"
  | .map => "a map"
  | .sequence => "a sequence"
  | .text => "a string"
  | .truth => "a boolean"
  | .unit => "unit"
  | .choice => "string or map"

/-- How a message names what was found instead. -/
def Value.described : Value → String
  | .null => "null"
  | .bool true => "boolean `true`"
  | .bool false => "boolean `false`"
  | .num (.int i) => "integer `" ++ Number.intText i ++ "`"
  | .num (.float x) => "floating point `" ++ Number.floatText x ++ "`"
  | .str s => "string " ++ Text.quoted s
  | .arr _ => "sequence"
  | .obj _ => "map"

/-- Why a binding map is malformed. -/
inductive BindingError where
  /-- The spreads are not a list. -/
  | spreadsNotList
  /-- A field of a spread has the wrong shape. -/
  | field (found : Value) (expected : Shape)
  deriving DecidableEq, Repr

/-- A value of the wrong shape, in words. -/
def mismatchText (found : Value) (expected : Shape) : String :=
  "invalid type: " ++ found.described ++ ", expected " ++ expected.name

/-- What a binding error says. -/
def BindingError.message : BindingError → String
  | .spreadsNotList => "__lcod_spreads__ must be a list of spread descriptors"
  | .field found expected => mismatchText found expected

/-- Why a value cannot be read as a part of a document. -/
inductive Mismatch where
  /-- A value of another shape. -/
  | unexpected (found : Value) (expected : Shape)
  /-- A field that must be there is not. -/
  | missingField (name : String)
  /-- A step written as a list has no items. -/
  | emptyStep
  /-- A step written as a list has more items than a step has fields. -/
  | tooManyFields (count : Nat)
  /-- A malformed binding map. -/
  | binding (e : BindingError)
  /-- A name that is none of the allowed ones. -/
  | unknownName (found : String) (allowed : List String)
  /-- An object that should have one key only. -/
  | notSingleKey
  deriving DecidableEq, Repr

/-- A list of names as a message gives it. -/
def allowedText : List String → String
  | [] => "there are no variants"
  | [a] => "expected `" ++ a ++ "`"
  | [a, b] => "expected `" ++ a ++ "` or `" ++ b ++ "`"
  | names => "expected one of " ++ String.intercalate ", " (names.map fun n => "`" ++ n ++ "`")

/-- What a mismatch says. -/
def Mismatch.message : Mismatch → String
  | .unexpected found expected => mismatchText found expected
  | .missingField name => "missing field `" ++ name ++ "`"
  | .emptyStep => "invalid length 0, expected struct Step with 6 elements"
  | .tooManyFields count =>
      "invalid length " ++ Number.intText count ++ ", expected fewer elements in array"
  | .binding e => "Invalid binding: " ++ e.message
  | .unknownName found allowed => "unknown variant `" ++ found ++ "`, " ++ allowedText allowed
  | .notSingleKey => "invalid value: map, expected map with a single key"

/-- Read a text. -/
def readText : Value → Except Mismatch String
  | .str s => .ok s
  | v => .error (.unexpected v .text)

/-- Read one of the given names: a text, or an object whose only key is the name and whose
only value is null. -/
def readChoice (names : List String) : Value → Except Mismatch String
  | .str s => if names.contains s then .ok s else .error (.unknownName s names)
  | .obj [(s, v)] =>
      if names.contains s then
        match v with
        | .null => .ok s
        | v => .error (.unexpected v .unit)
      else .error (.unknownName s names)
  | .obj _ => .error .notSingleKey
  | v => .error (.unexpected v .choice)

end StepFlow
