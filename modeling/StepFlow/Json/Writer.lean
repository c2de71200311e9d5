import StepFlow.Value
import StepFlow.Text.Quoted

/-
  StepFlow.Json.Writer
  ────────────────────
  Values as compact JSON text.

  There is no space between tokens, members keep their order, and only what
  JSON forbids inside a string is escaped: the quote, the backslash and the
  control characters.
-/

namespace StepFlow.Json

/-- How one character stands inside a JSON string. -/
def escapeChar (c : Char) : List Char :=
  if c = '"' then ['\\', '"']
  else if c = '\\' then ['\\', '\\']
  else if c = '\n' then ['\\', 'n']
  else if c = '\r' then ['\\', 'r']
  else if c = '\t' then ['\\', 't']
  else if c.toNat = 8 then ['\\', 'b']
  else if c.toNat = 12 then ['\\', 'f']
  else if c.toNat < 16 then ['\\', 'u', '0', '0', '0'] ++ Text.hexDigits c.toNat
  else if c.toNat < 32 then ['\\', 'u', '0', '0'] ++ Text.hexDigits c.toNat
  else [c]

/-- A text as a JSON string. -/
def stringText (s : String) : List Char :=
  '"' :: (s.toList.flatMap escapeChar ++ ['"'])

mutual
/-- The characters of a value's JSON text, in front of `rest`. -/
def write : Value → List Char → List Char
  | .null, rest => 'n' :: 'u' :: 'l' :: 'l' :: rest
  | .bool true, rest => 't' :: 'r' :: 'u' :: 'e' :: rest
  | .bool false, rest => 'f' :: 'a' :: 'l' :: 's' :: 'e' :: rest
  | .num n, rest => n.text.toList ++ rest
  | .str s, rest => stringText s ++ rest
  | .arr items, rest => '[' :: writeItems true items (']' :: rest)
  | .obj members, rest => '{' :: writeMembers true members ('}' :: rest)
/-- The items of a list, each but the first after a comma. -/
def writeItems : Bool → List Value → List Char → List Char
  | _, [], rest => rest
  | true, v :: vs, rest => write v (writeItems false vs rest)
  | false, v :: vs, rest => ',' :: write v (writeItems false vs rest)
/-- The members of an object, each but the first after a comma. -/
def writeMembers : Bool → List (String × Value) → List Char → List Char
  | _, [], rest => rest
  | true, (k, v) :: ms, rest => stringText k ++ ':' :: write v (writeMembers false ms rest)
  | false, (k, v) :: ms, rest =>
      ',' :: (stringText k ++ ':' :: write v (writeMembers false ms rest))
end

end StepFlow.Json

namespace StepFlow

/-- The compact JSON text of a value. -/
def Value.text (v : Value) : String :=
  String.ofList (Json.write v [])

end StepFlow
