import StepFlow.Text.Printable

/-
  StepFlow.Text.Quoted
  ────────────────────
  Texts shown between double quotes in messages.

  A quote and a backslash get a backslash in front; zero, tab, line feed and
  carriage return have letters of their own; whatever else cannot be shown is
  given by its code in hexadecimal, as in `\u{200b}`.
-/

namespace StepFlow.Text

/-- The lower-case hexadecimal digits of a number. -/
def hexDigits (n : Nat) : List Char :=
  Nat.toDigits 16 n

/-- How one character is shown between quotes. -/
def quoteChar (c : Char) : List Char :=
  if c = '"' then ['\\', '"']
  else if c = '\\' then ['\\', '\\']
  else if c = '\n' then ['\\', 'n']
  else if c = '\r' then ['\\', 'r']
  else if c = '\t' then ['\\', 't']
  else if c.toNat = 0 then ['\\', '0']
  else if isPrintable c then [c]
  else ['\\', 'u', '{'] ++ hexDigits c.toNat ++ ['}']

/-- A text between double quotes. -/
def quoted (s : String) : String :=
  String.ofList ('"' :: (s.toList.flatMap quoteChar ++ ['"']))

end StepFlow.Text
