import StepFlow.Document.Step
import StepFlow.Fault

/-
  StepFlow.Document.Basic
  ───────────────────────
  Documents: an object whose `compose` is a list of steps.

  A null document, a document without `compose` and one whose `compose` is
  null have no steps.  A slot table has no order, so a document may be written
  as any one of several values (`Document.WrittenAs`); reading each of them gives
  the same document (`Document.Alike`).
-/

namespace StepFlow

/-- A document: its steps, in order. -/
structure Document where
  steps : List Step
  deriving DecidableEq, Repr, Inhabited

/-- Why a value is not a document. -/
inductive DocumentError where
  /-- The document is not an object. -/
  | notObject
  /-- The steps are not a list. -/
  | notList
  /-- A part of a step has the wrong shape. -/
  | step (e : Mismatch)
  deriving DecidableEq, Repr

/-- What a document error says. -/
def DocumentError.message : DocumentError → String
  | .notObject => "compose document must be an object"
  | .notList => "compose must be a list of steps"
  | .step e => e.message

/-- The fault of a document error. -/
def DocumentError.toFault (e : DocumentError) : Fault :=
  .parse e.message

namespace Document

/-- The document that a value stands for. -/
def ofValue : Value → Except DocumentError Document
  | .null => .ok ⟨[]⟩
  | .obj members =>
      match Dict.get? members "compose" with
      | none => .ok ⟨[]⟩
      | some .null => .ok ⟨[]⟩
      | some (.arr items) =>
          match Step.readItems items with
          | .ok steps => .ok ⟨steps⟩
          | .error e => .error (.step e)
      | some _ => .error .notList
  | _ => .error .notObject

/-- The value that stands for a document, its slots in the order in which they are held. -/
def toValue (d : Document) : Value :=
  .obj [("compose", .arr (Step.values d.steps))]

/-- Whether two documents are the same, in whatever order they hold their slots. -/
def Alike (d d' : Document) : Prop :=
  Step.ListAlike d.steps d'.steps

/-- Whether a value is one that a document is written as.  Each slot table, at every depth, is
written in the order in which it happens to be held, so there is one value for each of the
orders. -/
def WrittenAs (d : Document) (w : Value) : Prop :=
  ∃ d', d.Alike d' ∧ w = d'.toValue

end Document

end StepFlow
