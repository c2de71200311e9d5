/-
  StepFlow.Text.Blank
  ───────────────────
  Blank characters and blank texts.

  A character is blank when it has the Unicode property White_Space.  A text
  that holds nothing else counts as missing wherever a name, a message or a
  path is asked for.
-/

namespace StepFlow.Text

/-- The characters with the property White_Space. -/
def isBlank (c : Char) : Bool :=
  let n := c.toNat
  (9 ≤ n && n ≤ 13) || n == 0x20 || n == 0x85 || n == 0xA0 || n == 0x1680 ||
    (0x2000 ≤ n && n ≤ 0x200A) || n == 0x2028 || n == 0x2029 || n == 0x202F ||
    n == 0x205F || n == 0x3000

/-- Whether a text holds blank characters only. -/
def isBlankText (s : String) : Bool :=
  s.toList.all isBlank

/-- A text without the blank characters at its two ends. -/
def trim (s : String) : String :=
  String.ofList ((s.toList.dropWhile isBlank).reverse.dropWhile isBlank).reverse

/-- ASCII capitals as small letters; every other character stays. -/
def asciiLower (s : String) : String :=
  String.ofList (s.toList.map Char.toLower)

end StepFlow.Text
