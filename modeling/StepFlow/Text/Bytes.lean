/-
  StepFlow.Text.Bytes
  ───────────────────
  Texts as the bytes of their UTF-8 form.
-/

namespace StepFlow.Text

/-- How many bytes some characters take. -/
def byteLength (cs : List Char) : Nat :=
  cs.foldl (fun n c => n + c.utf8Size) 0

/-- The bytes of some characters. -/
def bytesOf (cs : List Char) : List UInt8 :=
  cs.flatMap String.utf8EncodeChar

/-- Whether some bytes are the UTF-8 form of a text. -/
def isUtf8 (bytes : List UInt8) : Bool :=
  bytes.toByteArray.validateUTF8

end StepFlow.Text
