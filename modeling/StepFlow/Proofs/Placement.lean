import StepFlow.Proofs.Discipline

/-
  StepFlow.Proofs.Placement
  ─────────────────────────
  Documents in which every call is registered and every loop signal has a loop.

  A document is well placed if each step calls a standard function and each step
  that raises a loop signal is somewhere inside of a slot whose signals a loop
  takes.  That is a condition on the text of the document alone.  The runs of
  such a document never end with a signal that left every loop, a function that
  is not registered, a nested run outside of a step or, if nothing cancels them, a
  cancellation: they end with a state or with an ordinary failure
  (`executeWithin_ordinary`).
-/

namespace StepFlow

/-! ## §1. Placement -/

/-- Whether a fault is an ordinary failure of a function: a flow error, an input that was
refused, or JSON of the wrong shape. -/
def Fault.isOrdinary : Fault → Bool
  | .flow _ => true
  | .invalidInput _ => true
  | .json _ => true
  | _ => false

/-- Whether a step calls a standard function and, if that raises a signal, is inside of a
loop. -/
def Step.isPlaced (inLoop : Bool) (step : Step) : Bool :=
  Registry.standard.has step.call && (inLoop || !raisesSignal step.call)

/-- Only ordinary failures may come up. -/
def Terms.ordinary : Terms where
  faults e := e.isOrdinary = true
  total := False
  flow _ := rfl
  invalidInput _ := rfl
  json _ := rfl

/-- Placement is a discipline: a slot that is inside of a loop stays so at every depth. -/
def Discipline.placement : Discipline .ordinary where
  admits _ inLoop step := step.everywhere Step.isPlaced inLoop = true
  registered := by
    intro _ _ step h hget
    have hplaced := (Step.everywhere_iff.mp h).1
    have hhas : (Registry.standard.get? step.call).isSome = true :=
      (Bool.and_eq_true_iff.mp hplaced).1
    rw [hget] at hhas
    cases hhas
  placed := by
    intro _ inLoop step h hraises
    have hplaced := (Step.everywhere_iff.mp h).1
    simpa [Step.isPlaced, hraises] using (Bool.and_eq_true_iff.mp hplaced).2
  inherited := by
    intro _ _ step h
    exact (Step.everywhere_iff.mp h).2
  starts := nofun
  bounded := nofun

/-! ## §2. Runs of well-placed documents -/

namespace Session

/-- **A well-placed document never goes wrong.**  Nothing cancels the run; if it ends, it ends
with a state or with an ordinary failure. -/
theorem executeWithin_ordinary {limit : Nat} {settings : Settings} {steps : List Step}
    {initial : State} {report : Report} (htimeout : settings.timeoutMs = none)
    (hsteps : Step.everywhereIn Step.isPlaced false steps = true)
    (h : executeWithin limit .standard settings false steps initial = some report) :
    ∀ e, report.outcome = .error e → e.isOrdinary = true := by
  have hcancelled : false = true → Terms.ordinary.faults .cancelled := nofun
  have hclock : settings.timeoutMs ≠ none → Terms.ordinary.faults .cancelled :=
    fun h => (h htimeout).elim
  have hadmits : ∀ step ∈ steps, Discipline.placement.admits limit false step :=
    Step.everywhereIn_iff.mp hsteps
  obtain ⟨-, hpermits⟩ :=
    Discipline.placement.executeWithin_ensures hadmits hcancelled hclock initial
  obtain ⟨result, houtcome, hresult⟩ := hpermits report h
  intro e he
  rw [houtcome] at he
  match result, hresult with
  | .ok state, _ => cases he
  | .error (.signal s), hsignal =>
      -- no loop is around the run
      cases hsignal
  | .error (.fault e), hfault =>
      cases he
      exact hfault

/-- A failure in a loop, whose handler leaves the loop; a loop without items in the body of
another loop, which is left in place of its rounds; and a failure that nothing handles. -/
def nestedLoops : List Step :=
  let leave : Step := ⟨Flow.breakId, .empty, .empty, [], none, none⟩
  let fail : Step := ⟨Flow.throwId, .empty, .empty, [], none, none⟩
  let whole : Bindings := ⟨[⟨.str "$", none, false⟩], []⟩
  [⟨Flow.foreachId, ⟨[], [("list", .required (.arr [.null, .null]))]⟩, .empty, [],
      some [⟨Flow.tryId, .empty, .empty, [("catch", [leave])], some [fail], none⟩], none⟩,
    ⟨Flow.whileId, .empty, .empty,
      [("condition", [⟨Builtin.setId, ⟨[], [("cond", .required (.bool true))]⟩, whole, [], none,
          none⟩]),
        ("body", [⟨Flow.foreachId, .empty, .empty, [("else", [leave])], none, none⟩])],
      none, none⟩,
    fail]

/-- Both signals are taken, and the failure of the last step comes out. -/
theorem nestedLoops_ordinary :
    Step.everywhereIn Step.isPlaced false nestedLoops = true ∧
      ∃ report e, executeWithin 4 .standard .default false nestedLoops [] = some report ∧
        report.outcome = .error e ∧ e.isOrdinary = true := by
  have hsteps : Step.everywhereIn Step.isPlaced false nestedLoops = true := by decide
  have hrun : ∃ report e, executeWithin 4 .standard .default false nestedLoops [] = some report ∧
      report.outcome = .error e := ⟨_, _, rfl, rfl⟩
  obtain ⟨report, e, hreport, he⟩ := hrun
  exact ⟨hsteps, report, e, hreport, he, executeWithin_ordinary rfl hsteps hreport e he⟩

end Session

end StepFlow
