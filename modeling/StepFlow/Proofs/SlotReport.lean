import StepFlow.Builtin
import StepFlow.Proofs.Performing

/-
  StepFlow.Proofs.SlotReport
  ──────────────────────────
  Running a slot with its outcome reported as data.

  `Reported` has a rule for each way a slot can be reported: it is left out, it ends
  with a state, it fails, or it ends with a signal.  `slot_failures_contained`: `runSlot`
  answers by these rules wherever it is invoked, also where the slot cannot even start.
  So it never fails itself, the frames stay as they were, and the step that calls it
  changes its state by its own outputs only.
-/

namespace StepFlow.Builtin

open StepFlow.Engine

/-! ## §1. The rules -/

/-- The report on a slot that `run` runs, unless it is to be left out. -/
inductive Reported (slot : String) (leftOut : Prop) (run : Run (Outcome State)) (c : Context) :
    Outcome Value → Context → Prop where
  /-- A slot that is left out is not run, and only that is noted. -/
  | skipped (hout : leftOut) :
      Reported slot leftOut run c (.ok (.obj [("ran", .bool false), ("result", .null)]))
        (c.record (.noted (.flow (.slotSkipped slot))))
  /-- The state that a slot ends with is its result. -/
  | done {last : State} {d : Context} (hin : ¬ leftOut) (hrun : run c = some (.ok last, d)) :
      Reported slot leftOut run c (.ok (.obj [("ran", .bool true), ("result", .obj last)])) d
  /-- A failure is data, whatever the fault. -/
  | failed {e : Fault} {d : Context} (hin : ¬ leftOut)
      (hrun : run c = some (.error (.fault e), d)) :
      Reported slot leftOut run c
        (.ok (.obj [("ran", .bool true),
          ("error", .obj [("message", .str e.message), ("code", .str "slot_execution_failed")])]))
        (d.record (.noted (.flow (.slotFailed slot e.message))))
  /-- A loop signal is passed on. -/
  | signalled {s : Signal} {d : Context} (hin : ¬ leftOut)
      (hrun : run c = some (.error (.signal s), d)) :
      Reported slot leftOut run c (.error (.signal s)) d

section Rules

variable {slot : String} {leftOut : Prop} {run : Run (Outcome State)} {c d : Context}
  {r : Outcome Value}

/-- A report is never a failure. -/
theorem Reported.not_fault (h : Reported slot leftOut run c r d) (e : Fault) :
    r ≠ .error (.fault e) := by
  cases h <;> exact nofun

/-- That a slot did not run is reported exactly if it is left out. -/
theorem Reported.skipped_iff (h : Reported slot leftOut run c r d) :
    r = .ok (.obj [("ran", .bool false), ("result", .null)]) ↔ leftOut := by
  cases h with
  | skipped hout => exact ⟨fun _ => hout, fun _ => rfl⟩
  | done hin _ => simp [hin]
  | failed hin _ => simp [hin]
  | signalled hin _ => simp [hin]

/-- A report depends on the slot's run in this context only. -/
theorem Reported.congr (h : Reported slot leftOut run c r d) {other : Run (Outcome State)}
    (hother : run c = other c) : Reported slot leftOut other c r d := by
  cases h with
  | skipped hout => exact .skipped hout
  | done hin hrun => exact .done hin (hother ▸ hrun)
  | failed hin hrun => exact .failed hin (hother ▸ hrun)
  | signalled hin hrun => exact .signalled hin (hother ▸ hrun)

/-- A slot that leaves the frames alone is reported with the frames as they were. -/
theorem Reported.frames_eq (h : Reported slot leftOut run c r d) (hrun : Run.Evolving run) :
    d.frames = c.frames := by
  have hframes : ∀ {x : Outcome State} {e : Context}, run c = some (x, e) →
      e.frames = c.frames := by
    intro x e hx
    obtain ⟨es, hes⟩ := hrun c x e hx
    exact hes.frames_eq
  cases h with
  | skipped _ => rfl
  | done _ hx => exact hframes hx
  | failed _ hx =>
      have hkept := hframes hx
      exact hkept
  | signalled _ hx => exact hframes hx

end Rules

/-! ## §2. The rules are those of `runSlot` -/

/-- What the input gives a slot under a key, which has to be an object. -/
def given (input : State) (key : String) : Option State :=
  match Dict.get? input key with
  | some (.obj members) => some members
  | _ => none

theorem objectAt_eq_given (input : State) (key : String) :
    objectAt input key = given input key := by
  unfold objectAt given
  cases Dict.get? input key with
  | none => rfl
  | some v => cases v <;> rfl

/-- A slot is left out if it is optional and has no steps. -/
def LeavesOut (input : State) (slots : SlotMap) (slot : String) : Prop :=
  Dict.get? input "optional" = some (.bool true) ∧ (SlotMap.resolve slots slot).getD [] = []

theorem isOptional_iff (input : State) :
    isOptional input = true ↔ Dict.get? input "optional" = some (.bool true) := by
  unfold isOptional
  split
  · next h => simp [h]
  · next h => simpa using h

theorem leavesOut_iff (input : State) (site : CallSite) (slot : String) :
    (isOptional input && !site.hasSlot slot) = true ↔ LeavesOut input site.slots slot := by
  rw [Bool.and_eq_true, isOptional_iff, Bool.not_eq_true', CallSite.hasSlot,
    SlotMap.has_eq_false_iff]
  rfl

/-- The name of the slot, if it is not blank. -/
theorem nonBlank?_slot {input : State} {slot : String}
    (hslot : Dict.get? input "slot" = some (.str slot)) (hblank : Text.isBlankText slot = false) :
    State.nonBlank? input "slot" = some slot := by
  simp [State.nonBlank?, hslot, hblank]

section Invocations

variable {registry : Registry} {limit : Nat} {input : State} {slot : String} {site : CallSite}
  {c d : Context} {r : Outcome Value}

theorem runSlot_reports (hslot : State.nonBlank? input "slot" = some slot) :
    performWithin registry limit (runSlot input site) c = some (r, d) ↔
      Reported slot (LeavesOut input site.slots slot)
        (Engine.runSlot (callWithin registry limit) slot (given input "state")
          (given input "slotVars")) c r d := by
  unfold runSlot
  simp only [hslot, objectAt_eq_given]
  by_cases hout : (isOptional input && !site.hasSlot slot) = true
  · -- nothing is run here, so the other rules do not apply
    have hleft := (leavesOut_iff input site slot).mp hout
    rw [if_pos hout]
    show some (.ok slotSkipped, c.record (.noted (.flow (.slotSkipped slot)))) = some (r, d) ↔ _
    constructor
    · rintro ⟨⟩
      exact .skipped hleft
    · intro h
      cases h with
      | skipped _ => rfl
      | done hin _ => exact (hin hleft).elim
      | failed hin _ => exact (hin hleft).elim
      | signalled hin _ => exact (hin hleft).elim
  · have hin : ¬ LeavesOut input site.slots slot := fun h =>
      hout ((leavesOut_iff input site slot).mpr h)
    rw [if_neg hout, performWithin_trySlot_then, Option.bind_eq_some_iff]
    constructor
    · -- one rule for each way the slot can end
      rintro ⟨⟨x, e⟩, hrun, hend⟩
      match x with
      | .ok last =>
          cases hend
          exact .done hin hrun
      | .error (.fault f) =>
          cases hend
          exact .failed hin hrun
      | .error (.signal s) =>
          cases hend
          exact .signalled hin hrun
    · intro h
      cases h with
      | skipped hleft => exact (hin hleft).elim
      | done _ hrun => exact ⟨_, hrun, rfl⟩
      | failed _ hrun => exact ⟨_, hrun, rfl⟩
      | signalled _ hrun => exact ⟨_, hrun, rfl⟩

/-- The function as it is registered; it declares no outputs. -/
def runSlotEntry : Entry := ⟨runSlotId, [], runSlot⟩

theorem invoke_reports (hget : registry.get? runSlotId = some runSlotEntry)
    (hslot : State.nonBlank? input "slot" = some slot) :
    invoke registry (enter registry (limit + 1)) runSlotId input site c = some (r, d) ↔
      Reported slot (LeavesOut input site.slots slot)
        (Engine.runSlot (callWithin registry limit) slot (given input "state")
          (given input "slotVars")) c r d := by
  rw [invoke_of_get? hget, enter_of_no_outputs rfl]
  exact runSlot_reports hslot

/-- A step that calls the function has the report of its own slot merged into its state. -/
theorem runStep_reports {step : Step} {vars state : State}
    (hget : registry.get? runSlotId = some runSlotEntry) (hcall : step.call = runSlotId)
    (hslot : State.nonBlank? (step.inputs.input ⟨state, vars⟩) "slot" = some slot)
    (hc : c.mayStart 2 = true) (limit index : Nat) (r : Outcome State) :
    (∃ d, runStep (callWithin registry (limit + 1)) vars index step state c = some (r, d)) ↔
      ∃ x e, Reported slot (LeavesOut (step.inputs.input ⟨state, vars⟩) step.slotMap slot)
          (runSlotFrom (callWithin registry limit) step.slotMap slot
            ((given (step.inputs.input ⟨state, vars⟩) "state").getD state)
            ((given (step.inputs.input ⟨state, vars⟩) "slotVars").getD vars))
          (entryContext runSlotEntry vars index step state c) x e ∧
        r = x.map fun v => step.outputs.output v state := by
  -- the frame on top is the step's own, so the slot starts from what the step has
  have hframes := entryContext_frames runSlotEntry vars index step state c
  have hrun := runSlot_eq_runSlotFrom hframes (callWithin registry limit) slot
    (given (step.inputs.input ⟨state, vars⟩) "state")
    (given (step.inputs.input ⟨state, vars⟩) "slotVars")
  rw [← hcall] at hget
  rw [runStep_of_mayStart hget hc]
  simp only [Option.bind_eq_some_iff]
  constructor
  · rintro ⟨d, ⟨x, e⟩, hx, hmerge⟩
    rw [map_restrict_of_no_outputs rfl] at hmerge
    obtain ⟨f, hmerged, -⟩ := exists_mergeStep step state x (e.closeTo c.depth).popFrame
    cases hmerged.symm.trans hmerge
    exact ⟨x, e, ((runSlot_reports hslot).mp hx).congr hrun, rfl⟩
  · rintro ⟨x, e, hx, rfl⟩
    obtain ⟨f, hmerged, -⟩ := exists_mergeStep step state x (e.closeTo c.depth).popFrame
    refine ⟨f, (x, e), (runSlot_reports hslot).mpr (hx.congr hrun.symm), ?_⟩
    rw [map_restrict_of_no_outputs rfl]
    exact hmerged

end Invocations

/-! ## §3. Containment -/

/-- What the function guarantees when it is invoked at a call site, in any context. -/
structure Contains (registry : Registry) (limit : Nat) (input : State) (slot : String)
    (site : CallSite) (c : Context) : Prop where
  /-- It ends exactly if the slot does, and answers by the rules. -/
  reports : ∀ r d,
    invoke registry (enter registry (limit + 1)) runSlotId input site c = some (r, d) ↔
      Reported slot (LeavesOut input site.slots slot)
        (Engine.runSlot (callWithin registry limit) slot (given input "state")
          (given input "slotVars")) c r d
  /-- It does not fail. -/
  not_fault : ∀ r d,
    invoke registry (enter registry (limit + 1)) runSlotId input site c = some (r, d) →
      ∀ e, r ≠ .error (.fault e)
  /-- It reports that nothing was run exactly if the slot is left out. -/
  skipped_iff : ∀ r d,
    invoke registry (enter registry (limit + 1)) runSlotId input site c = some (r, d) →
      (r = .ok (.obj [("ran", .bool false), ("result", .null)]) ↔ LeavesOut input site.slots slot)
  /-- The frames are what they were. -/
  frames_eq : ∀ r d,
    invoke registry (enter registry (limit + 1)) runSlotId input site c = some (r, d) →
      d.frames = c.frames
  /-- Where the slot cannot start, for want of a step or because the run was cancelled, its run
  has failed. -/
  cannot_start : c.frames = [] ∨ c.mayStart 1 = false →
    Engine.runSlot (callWithin registry limit) slot (given input "state")
        (given input "slotVars") c =
      some (.error (.fault (if c.mayStart 1 then .runnerUnavailable "run_slot" else .cancelled)),
        c.tick)

/-- What the function guarantees to a step that calls it. -/
structure StepContains (registry : Registry) (limit : Nat) (input : State) (slot : String)
    (vars : State) (index : Nat) (step : Step) (state : State) (c : Context) : Prop where
  /-- The step's own slot is reported, run from the given state and slot variables or else from
  those of the step.  The report changes the state by the step's outputs and not otherwise. -/
  reports : ∀ r,
    (∃ d, runStep (callWithin registry (limit + 1)) vars index step state c = some (r, d)) ↔
      ∃ x e, Reported slot (LeavesOut input step.slotMap slot)
          (runSlotFrom (callWithin registry limit) step.slotMap slot
            ((given input "state").getD state) ((given input "slotVars").getD vars))
          (entryContext runSlotEntry vars index step state c) x e ∧
        r = x.map fun v => step.outputs.output v state
  /-- The step does not fail. -/
  not_fault : ∀ r d,
    runStep (callWithin registry (limit + 1)) vars index step state c = some (r, d) →
      ∀ e, r ≠ .error (.fault e)
  /-- The frames are what they were. -/
  frames_eq : ∀ r d,
    runStep (callWithin registry (limit + 1)) vars index step state c = some (r, d) →
      d.frames = c.frames

section Containment

variable {registry : Registry} {input : State} {slot : String}

theorem contains_of_get? (hget : registry.get? runSlotId = some runSlotEntry)
    (hslot : State.nonBlank? input "slot" = some slot) (limit : Nat) (site : CallSite)
    (c : Context) : Contains registry limit input slot site c := by
  have hreports : ∀ {r : Outcome Value} {d : Context},
      invoke registry (enter registry (limit + 1)) runSlotId input site c = some (r, d) →
      Reported slot (LeavesOut input site.slots slot)
        (Engine.runSlot (callWithin registry limit) slot (given input "state")
          (given input "slotVars")) c r d :=
    fun h => (invoke_reports hget hslot).mp h
  have hslotMoves := runSlot_evolves (callWithin_evolves registry limit) slot
    (given input "state") (given input "slotVars")
  exact {
    reports := fun r d => invoke_reports hget hslot
    not_fault := fun r d h => (hreports h).not_fault
    skipped_iff := fun r d h => (hreports h).skipped_iff
    frames_eq := fun r d h => (hreports h).frames_eq hslotMoves
    cannot_start := fun h => runSlot_of_cannot_start h _ _ _ _ }

theorem stepContains_of_get? {step : Step} {vars state : State} {c : Context}
    (hget : registry.get? runSlotId = some runSlotEntry) (hcall : step.call = runSlotId)
    (hslot : State.nonBlank? (step.inputs.input ⟨state, vars⟩) "slot" = some slot)
    (hc : c.mayStart 2 = true) (limit index : Nat) :
    StepContains registry limit (step.inputs.input ⟨state, vars⟩) slot vars index step state c := by
  have hreports := runStep_reports hget hcall hslot hc limit index
  refine ⟨hreports, ?_, ?_⟩
  · intro r d hrun fault hfault
    obtain ⟨x, e, hx, hr⟩ := (hreports r).mp ⟨d, hrun⟩
    subst hr
    -- a report that is data becomes a state, so the fault would be the report itself
    cases x with
    | ok v => cases hfault
    | error i =>
        cases hfault
        exact hx.not_fault fault rfl
  · intro r d hrun
    obtain ⟨es, hes⟩ := runStep_evolves (callWithin_evolves registry (limit + 1)) vars index step
      state c r d hrun
    exact hes.frames_eq

/-- **A reported slot never fails its step.**  Over any registry that has it, the function that
reports a slot answers by the rules wherever it is invoked with the name of a slot: nothing is run
exactly if the slot is optional and has no steps, and otherwise a state, a failure of any kind or a
signal is what the slot ended with.  The frames stay as they were.  A step that may start with the
function has its own slot reported, and its state is changed by its own outputs only. -/
theorem slot_failures_contained (hget : registry.get? runSlotId = some runSlotEntry)
    (hslot : Dict.get? input "slot" = some (.str slot)) (hblank : Text.isBlankText slot = false)
    (limit : Nat) :
    (∀ site c, Contains registry limit input slot site c) ∧
      ∀ vars index step state c, step.call = runSlotId →
        step.inputs.input ⟨state, vars⟩ = input → c.mayStart 2 = true →
        StepContains registry limit input slot vars index step state c := by
  have hname := nonBlank?_slot hslot hblank
  refine ⟨fun site c => contains_of_get? hget hname limit site c, ?_⟩
  rintro vars index step state c hcall rfl hc
  exact stepContains_of_get? hget hcall hname hc limit index

end Containment

/-- A step that has its body reported, which fails. -/
def reportingStep : Step :=
  ⟨runSlotId, ⟨[], [("slot", .required (.str "body"))]⟩, ⟨[], [("report", .required (.str "$"))]⟩,
    [("body", [.ofCall "missing"])], none, none⟩

/-- A step that gives its body a state and slot variables, of which the body reads both. -/
def givingStep : Step :=
  ⟨runSlotId, ⟨[], [("slot", .required (.str "body")),
      ("state", .required (.obj [("n", .int 1)])),
      ("slotVars", .required (.obj [("who", .str "x")]))]⟩,
    ⟨[], [("report", .required (.str "$"))]⟩,
    [("body", [⟨setId,
      ⟨[], [("m", .required (.str "$.n")), ("told", .required (.str "$slot.who"))]⟩,
      ⟨[⟨.str "$", none, false⟩], []⟩, [], none, none⟩])], none, none⟩

/-- The input of the first step. -/
def reportingInput : State := [("slot", .str "body")]

/-- The input of the second step. -/
def givingInput : State :=
  [("slot", .str "body"), ("state", .obj [("n", .int 1)]), ("slotVars", .obj [("who", .str "x")])]

/-- A failure of the body is data in the state of the step.  A body that is given a state and slot
variables runs on these, and not on what the step has.  The failure to start a body in a cancelled
run that has no step is data as well. -/
theorem reportingStep_contains :
    (∃ d, runStep (callWithin .standard 2) [] 0 reportingStep [] (.start .info false none) =
        some (.ok [("report", .obj [("ran", .bool true),
          ("error", .obj [("message", .str "Function not registered: missing"),
            ("code", .str "slot_execution_failed")])])], d) ∧ d.frames = []) ∧
    (∃ d, runStep (callWithin .standard 2) [("who", .str "y")] 0 givingStep [("n", .int 2)]
        (.start .info false none) =
          some (.ok [("n", .int 2), ("report", .obj [("ran", .bool true),
            ("result", .obj [("n", .int 1), ("m", .int 1), ("told", .str "x")])])], d) ∧
      d.frames = []) ∧
    ∃ d, invoke .standard (enter .standard 2) runSlotId reportingInput .bare
        (.start .info true none) = some (.ok (.obj [("ran", .bool true),
          ("error", .obj [("message", .str "Execution cancelled"),
            ("code", .str "slot_execution_failed")])]), d) ∧ d.frames = [] := by
  have hget : Registry.standard.get? runSlotId = some runSlotEntry := rfl
  have hslot : Dict.get? reportingInput "slot" = some (.str "body") := rfl
  have hblank : Text.isBlankText "body" = false := by decide
  obtain ⟨hinvoked, hsteps⟩ := slot_failures_contained hget hslot hblank 1
  refine ⟨?_, ?_, ?_⟩
  · have hstep := hsteps [] 0 reportingStep [] (.start .info false none) rfl rfl rfl
    have hends : ∃ d, runStep (callWithin .standard 2) [] 0 reportingStep []
        (.start .info false none) = some (.ok [("report", .obj [("ran", .bool true),
          ("error", .obj [("message", .str "Function not registered: missing"),
            ("code", .str "slot_execution_failed")])])], d) := ⟨_, rfl⟩
    obtain ⟨d, hrun⟩ := hends
    exact ⟨d, hrun, hstep.frames_eq _ d hrun⟩
  · have hgiving : Dict.get? givingInput "slot" = some (.str "body") := rfl
    obtain ⟨-, hsteps⟩ := slot_failures_contained hget hgiving hblank 1
    have hstep := hsteps [("who", .str "y")] 0 givingStep [("n", .int 2)] (.start .info false none)
      rfl rfl rfl
    have hbody : ∃ e, runSlotFrom (callWithin .standard 1) givingStep.slotMap "body"
        [("n", .int 1)] [("who", .str "x")]
        (entryContext runSlotEntry [("who", .str "y")] 0 givingStep [("n", .int 2)]
          (.start .info false none)) =
            some (.ok [("n", .int 1), ("m", .int 1), ("told", .str "x")], e) := ⟨_, rfl⟩
    obtain ⟨e, hbody⟩ := hbody
    have hout : ¬ LeavesOut givingInput givingStep.slotMap "body" := by
      rintro ⟨hoptional, -⟩
      cases hoptional
    obtain ⟨d, hrun⟩ := (hstep.reports _).mpr ⟨_, e, .done hout hbody, rfl⟩
    exact ⟨d, hrun, hstep.frames_eq _ d hrun⟩
  · have hcontains := hinvoked .bare (.start .info true none)
    have hout : ¬ LeavesOut reportingInput CallSite.bare.slots "body" := by
      rintro ⟨hoptional, -⟩
      cases hoptional
    have hreport := (hcontains.reports _ _).mpr (.failed hout (hcontains.cannot_start (.inl rfl)))
    exact ⟨_, hreport, hcontains.frames_eq _ _ hreport⟩

end StepFlow.Builtin
