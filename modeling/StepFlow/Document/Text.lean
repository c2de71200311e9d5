import StepFlow.Document.Basic
import StepFlow.Json.Reader
import StepFlow.Yaml.Reader

/-
  StepFlow.Document.Text
  ──────────────────────
  Documents from JSON and YAML texts.

  A text that is malformed is told apart from one that holds something else
  than a document.
-/

namespace StepFlow.Document

/-- The document that a value stands for, or the fault of a value that is none. -/
def load (v : Value) : Except Fault Document :=
  (ofValue v).mapError DocumentError.toFault

/-- The document of a JSON text. -/
def ofJson (text : String) : Except Fault Document := do
  load (← (Json.read text).mapError fun e => .json e.message)

/-- The document of a YAML text. -/
def ofYaml (text : String) : Except Fault Document := do
  load (← (Yaml.read text).mapError fun e => .yaml e.message)

end StepFlow.Document
