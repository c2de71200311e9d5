import StepFlow.Document.Step
import StepFlow.Run.Journal

/-
  StepFlow.Run.Context
  ────────────────────
  What a run carries along: scopes with their cleanups, the frames of the steps
  that are running, the cancellation flag, the clock and the journal.

  The clock of a run with limited time moves with each step, call and nested
  run that is about to start; all else takes no time.  When it has run down, the
  run is cancelled as if from outside.

  Scopes form a stack over a root scope that stays open to the end.  Closing a
  scope runs its cleanups, the last one registered first.  A cleanup that fails
  is noted, and the others run all the same; one that holds the token of the run
  may cancel it.
-/

namespace StepFlow

/-- The cleanups of a scope, the last one registered first. -/
abbrev Scope := List Cleanup

/-- Where the nested runs of a step's function take place. -/
structure Frame where
  slots : SlotMap
  state : State
  vars : State
  deriving DecidableEq

/-- The state of a run. -/
structure Context where
  /-- The scope that stays open to the end. -/
  root : Scope
  /-- The other open scopes, the innermost first. -/
  inner : List Scope
  /-- The frames of the running steps, the innermost first. -/
  frames : List Frame
  /-- Whether the run was asked to stop. -/
  cancelled : Bool
  /-- How many more steps, calls and nested runs may start in time, if that is limited. -/
  clock : Option Nat
  /-- The least severe records that are logged. -/
  logLevel : LogLevel
  /-- What happened, the latest event first. -/
  journal : List Event
  deriving DecidableEq

namespace Context

/-- A context at the start of a run. -/
def start (logLevel : LogLevel) (cancelled : Bool) (clock : Option Nat) : Context :=
  ⟨[], [], [], cancelled, clock, logLevel, []⟩

/-! ## §1. Journal and cancellation -/

/-- Add an event to the journal. -/
def record (c : Context) (e : Event) : Context :=
  { c with journal := e :: c.journal }

/-- Add events to the journal, in order. -/
def recordAll (c : Context) (es : List Event) : Context :=
  es.foldl record c

/-- Ask the run to stop. -/
def cancel (c : Context) : Context :=
  { c with cancelled := true }.record .cancelRequested

/-- Let time pass.  A run whose time is up is asked to stop; after that time does not
matter. -/
def tick (c : Context) : Context :=
  if c.cancelled then c
  else match c.clock with
    | none => c
    | some 0 => c.cancel
    | some (left + 1) => { c with clock := some left }

/-- Let time pass until the run is asked to stop; `none` if it never is. -/
def awaitCancel (c : Context) : Option Context :=
  if c.cancelled then some c
  else match c.clock with
    | none => none
    | some _ => some { c with clock := some 0 }.cancel

/-! ## §2. Scopes -/

/-- The number of open scopes, the root included. -/
def depth (c : Context) : Nat :=
  c.inner.length + 1

/-- Run one cleanup. -/
def runCleanup (c : Context) (cleanup : Cleanup) : Context :=
  let c := c.record (.cleaned cleanup)
  let c := if cleanup.stops then c.cancel else c
  match cleanup.failure with
  | some error => c.record (.cleanupFailed error)
  | none => c

/-- Run cleanups, in order. -/
def runCleanups (c : Context) (cleanups : Scope) : Context :=
  cleanups.foldl runCleanup c

/-- Open a scope. -/
def openScope (c : Context) : Context :=
  { c with inner := [] :: c.inner }.record .scopeOpened

/-- Close the innermost scope, unless only the root is open. -/
def closeScope (c : Context) : Context :=
  match c.inner with
  | [] => c
  | scope :: rest => ({ c with inner := rest }.record .scopeClosed).runCleanups scope

/-- Close so many scopes. -/
def closeScopes : Nat → Context → Context
  | 0, c => c
  | n + 1, c => closeScopes n c.closeScope

/-- Close scopes until at most `keep` are open. -/
def closeTo (c : Context) (keep : Nat) : Context :=
  closeScopes (c.depth - keep) c

/-- Register a cleanup with the innermost scope. -/
def defer (c : Context) (cleanup : Cleanup) : Context :=
  let c := c.record (.deferred cleanup)
  match c.inner with
  | [] => { c with root := cleanup :: c.root }
  | scope :: rest => { c with inner := (cleanup :: scope) :: rest }

/-- The end of a run: every scope that is still open is closed, the outermost first. -/
def close (c : Context) : Context :=
  (c.root :: c.inner.reverse).foldl runCleanups { c with root := [], inner := [] }

/-! ## §3. Frames -/

/-- Enter a step. -/
def pushFrame (c : Context) (frame : Frame) : Context :=
  { c with frames := frame :: c.frames }

/-- Leave a step. -/
def popFrame (c : Context) : Context :=
  { c with frames := c.frames.tail }

end Context

end StepFlow
