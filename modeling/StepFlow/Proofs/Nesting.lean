import StepFlow.Proofs.LoopAgreement
import StepFlow.Proofs.Recovery

/-
  StepFlow.Proofs.Nesting
  ───────────────────────
  Interrupts on their way out of nested steps.

  `protect` without handlers and `parallel` with one task run a single sequence and
  raise its interrupt again, a failure in its structured form.  Steps of both kinds
  may be nested in any order and to any depth (`Chain`).

  One level does to an interrupt what `raised` says, whatever else happened in the
  meantime (`Opens.interrupted`): the flag of the run is not looked at once the
  sequence has ended.  Since `raised` changes nothing the second time, so does any
  number of levels (`Chain.interrupted`, by induction along the chain), and what
  comes out does not tell how deep it came from (`interrupts_survive_nesting`).  On
  the way nothing happens but that scopes are closed (`Context.Unwinds`).
-/

namespace StepFlow

/-! ## §1. Raising again -/

/-- An interrupt as it is raised again: a failure in its structured form, a signal as it is. -/
def Interrupt.raised : Interrupt → Interrupt
  | .fault e => .fault (.flow (Flow.normalized e))
  | .signal s => .signal s

/-- What was raised again once stays as it is. -/
@[simp] theorem Interrupt.raised_raised (i : Interrupt) : i.raised.raised = i.raised := by
  cases i <;> rfl

theorem Flow.structured_error {α : Type} (i : Interrupt) :
    structured (.error i : Outcome α) = .error i.raised := by
  cases i <;> rfl

/-- All flow functions are there, under their own ids. -/
def Registry.HasFlow (registry : Registry) : Prop :=
  ∀ f ∈ Flow.functions, registry.get? f.1 = some ⟨f.1, [], f.2⟩

theorem Registry.standard_hasFlow : Registry.standard.HasFlow := by
  intro f hf
  simp only [Flow.functions, List.mem_cons, List.not_mem_nil, or_false] at hf
  rcases hf with rfl | rfl | rfl | rfl | rfl | rfl | rfl | rfl | rfl <;> rfl

/-- They still are after a function was registered under another id. -/
theorem Registry.HasFlow.register {registry : Registry} (h : registry.HasFlow) {id : String}
    (hid : id ∉ Flow.functions.map Prod.fst) (function : Function) :
    (registry.register id function).HasFlow := by
  intro f hf
  have hne : id ≠ f.1 := by
    rintro rfl
    exact hid (List.mem_map_of_mem hf)
  rw [← h f hf]
  exact Dict.get?_insert_of_ne _ _ hne

/-! ## §2. The way out -/

namespace Context

/-- The way out of nested parts: scopes are closed and frames taken off, and that is all. -/
inductive Unwinds (c : Context) : Context → Prop where
  /-- There is nothing to leave. -/
  | refl : Unwinds c c
  /-- A scope is closed. -/
  | closeScope {d : Context} (h : Unwinds c d) : Unwinds c d.closeScope
  /-- A frame is taken off. -/
  | popFrame {d : Context} (h : Unwinds c d) : Unwinds c d.popFrame

namespace Unwinds

variable {c d e : Context}

theorem trans (h : c.Unwinds d) (h' : d.Unwinds e) : c.Unwinds e := by
  induction h' with
  | refl => exact h
  | closeScope _ ih => exact ih.closeScope
  | popFrame _ ih => exact ih.popFrame

theorem closeScopes (n : Nat) : ∀ (c : Context), c.Unwinds (closeScopes n c) := by
  induction n with
  | zero => intro c; exact .refl
  | succ n ih => intro c; exact Unwinds.refl.closeScope.trans (ih c.closeScope)

/-- The flag is set if it was, or if a cleanup has asked for it. -/
theorem cancelled_iff (h : c.Unwinds d) :
    d.cancelled = true ↔ c.cancelled = true ∨ .cancelRequested ∈ c.eventsTo d := by
  have hevents : ∃ es : List Event, d.journal = es.reverse ++ c.journal ∧
      (d.cancelled = true ↔ c.cancelled = true ∨ .cancelRequested ∈ es) := by
    induction h with
    | refl => exact ⟨[], rfl, by simp⟩
    | @closeScope d _ ih =>
        obtain ⟨es, hjournal, hflag⟩ := ih
        obtain ⟨fs, hfs⟩ := d.closeScope_evolves
        refine ⟨es ++ fs, ?_, ?_⟩
        · rw [hfs.journal_eq, hjournal, List.reverse_append, List.append_assoc]
        · rw [hfs.cancelled_iff, hflag, List.mem_append, or_assoc]
    | popFrame _ ih => exact ih
  obtain ⟨es, hjournal, hflag⟩ := hevents
  rw [eventsTo_eq_of_journal hjournal]
  exact hflag

end Unwinds

end Context

namespace Engine

open StepFlow.Flow

/-! ## §3. Chains of steps -/

/-- A step that is about to run: its place in its sequence, what it starts from, and where the
run stands. -/
structure PendingStep where
  step : Step
  index : Nat
  state : State
  vars : State
  before : Context

/-- A sequence that is about to run. -/
structure PendingSequence where
  steps : List Step
  state : State
  vars : State
  before : Context

/-- Run the step. -/
def PendingStep.run (registry : Registry) (limit : Nat) (s : PendingStep) :
    Option (Outcome State × Context) :=
  runStep (callWithin registry limit) s.vars s.index s.step s.state s.before

/-- Run the sequence. -/
def PendingSequence.run (registry : Registry) (limit : Nat) (q : PendingSequence) :
    Option (Outcome State × Context) :=
  runWithin registry limit q.steps q.state q.vars q.before

/-- Where the sequence in a slot starts that is the first thing a step's function runs. -/
def PendingStep.inside (s : PendingStep) (entry : Entry) (slot : String) (steps : List Step)
    (vars : State) : PendingSequence where
  steps := steps
  state := s.state
  vars := vars
  before := ((entryContext entry s.vars s.index s.step s.state s.before).tick.record
    (.slotStarted slot steps.length)).openScope

/-- A step that has the time to get there runs a sequence and adds nothing of its own. -/
inductive Opens (s : PendingStep) : PendingSequence → Prop where
  /-- A protected sequence with no handler. -/
  | guarded {steps : List Step} (hcall : s.step.call = tryId)
      (hcatch : SlotMap.has s.step.slotMap "catch" = false)
      (hfinally : SlotMap.has s.step.slotMap "finally" = false)
      (hslot : SlotMap.resolve s.step.slotMap childrenSlot = some steps)
      (htime : s.before.mayStart 3 = true) :
      Opens s (s.inside ⟨tryId, [], protect⟩ childrenSlot steps [("phase", .str "try")])
  /-- A sequence that is run for one task. -/
  | task {steps : List Step} {task : Value} (hcall : s.step.call = parallelId)
      (htasks : Dict.get? (s.step.inputs.input ⟨s.state, s.vars⟩) "tasks" = some (.arr [task]))
      (hslot : SlotMap.resolve s.step.slotMap "tasks" = some steps)
      (htime : s.before.mayStart 3 = true) :
      Opens s (s.inside ⟨parallelId, [], parallel⟩ "tasks" steps
        [("item", task), ("index", .int 0)])

/-- From a step through so many nested ones, itself the first, to the innermost sequence.  A
nested step may stand anywhere in its sequence: the steps before it have run and left a
state. -/
inductive Chain (registry : Registry) (limit : Nat) :
    Nat → PendingStep → PendingSequence → Prop where
  /-- The step runs the innermost sequence. -/
  | last {s : PendingStep} {q : PendingSequence} (hopens : Opens s q) : Chain registry limit 1 s q
  /-- The step runs a sequence with the next step of the chain. -/
  | through {depth : Nat} {s : PendingStep} {p q : PendingSequence} {done later : List Step}
      {next : Step} {reached : State} {c : Context} (hopens : Opens s p)
      (hsteps : p.steps = done ++ next :: later)
      (hdone : runWithin registry (limit + depth) done p.state p.vars p.before =
        some (.ok reached, c))
      (hnext : Chain registry limit depth ⟨next, done.length, reached, p.vars, c⟩ q) :
      Chain registry limit (depth + 1) s q

/-! ## §4. One level -/

variable {registry : Registry} {limit : Nat} {c d : Context} {i : Interrupt}

/-- A sequence without steps is not interrupted. -/
theorem PendingSequence.steps_ne_nil {q : PendingSequence}
    (h : q.run registry limit = some (.error i, d)) : q.steps ≠ [] := by
  obtain ⟨steps, state, vars, before⟩ := q
  rintro rfl
  cases h

/-- The slot of a step ends as its sequence does, in a scope that is closed. -/
theorem runSlotFrom_of_inside {s : PendingStep} {entry : Entry} {slot : String}
    {steps : List Step} {vars : State}
    (hslot : SlotMap.resolve s.step.slotMap slot = some steps)
    (htime : s.before.mayStart 3 = true)
    (h : (s.inside entry slot steps vars).run registry limit = some (.error i, d)) :
    ∃ e, runSlotFrom (callWithin registry limit) s.step.slotMap slot s.state vars
        (entryContext entry s.vars s.index s.step s.state s.before) = some (.error i, e) ∧
      d.Unwinds e := by
  have htick : (entryContext entry s.vars s.index s.step s.state s.before).mayStart 1 = true :=
    (entryContext_mayStart 1 entry s.vars s.index s.step s.state s.before).trans htime
  rw [runSlotFrom_of_mayStart hslot htick]
  exact ⟨_, Run.inScope_eq_some.mpr ⟨d, h, rfl⟩, .closeScopes _ d⟩

/-- An interrupt of a step's function is the end of the step. -/
theorem PendingStep.run_of_interrupted {s : PendingStep} {entry : Entry}
    (hget : registry.get? s.step.call = some entry) (htime : s.before.mayStart 2 = true)
    (h : performWithin registry limit
      (entry.function (s.step.inputs.input ⟨s.state, s.vars⟩)
        ⟨s.step.slotMap, s.vars, s.step.collectPath⟩)
      (entryContext entry s.vars s.index s.step s.state s.before) = some (.error i, d)) :
    ∃ e, s.run registry (limit + 1) = some (.error i, e) ∧ d.Unwinds e := by
  rw [PendingStep.run, runStep_of_mayStart hget htime, h]
  exact ⟨_, rfl, (Context.Unwinds.closeScopes _ d).popFrame⟩

/-- The one round of `parallel`, interrupted. -/
theorem eachTask_of_interrupted {frame : Frame} {rest : List Frame} {site : CallSite}
    {task : Value} (hframes : c.frames = frame :: rest) (hc : c.cancelled = false)
    (h : runSlotFrom (callWithin registry limit) frame.slots "tasks" frame.state
      (itemVars (some task) 0) c = some (.error i, d)) :
    performWithin registry limit (eachTask site 0 [task] []) c = some (.error i.raised, d) := by
  rw [eachTask, performWithin_ensureActive_bind, hc]
  show performWithin registry limit
    (Action.trySlot "tasks" none (some (itemVars (some task) 0)) >>= _) c = _
  rw [performWithin_trySlot_bind hframes]
  show Option.bind (runSlotFrom (callWithin registry limit) frame.slots "tasks" frame.state
    (itemVars (some task) 0) c) _ = _
  rw [h]
  cases i <;> rfl

/-- **One level raises an interrupt again.** -/
theorem Opens.interrupted (hflow : registry.HasFlow) {s : PendingStep} {q : PendingSequence}
    (hopens : Opens s q) (h : q.run registry limit = some (.error i, d)) :
    ∃ e, s.run registry (limit + 1) = some (.error i.raised, e) ∧ d.Unwinds e := by
  have hsteps := PendingSequence.steps_ne_nil h
  cases hopens with
  | guarded hcall hcatch hfinally hslot htime =>
      have hget : registry.get? s.step.call = some ⟨tryId, [], protect⟩ := by
        rw [hcall]
        exact hflow (tryId, protect) (by simp [Flow.functions])
      obtain ⟨e, hrun, he⟩ := runSlotFrom_of_inside hslot htime h
      -- nothing handles the interrupt, and nothing follows on it
      have hhandled : Handled (callWithin registry limit) s.step.slotMap s.state (.error i) e
          (.error i) e := by
        cases i with
        | signal sig => exact .signalled sig e
        | fault f => exact .uncaught f e hcatch
      have hconcluded : Concluded (callWithin registry limit) s.step.slotMap s.state (.error i) e
          (.error i.raised) e := by
        have hplain : (structured (.error i)).map Value.obj = .error i.raised := by
          rw [structured_error]
          rfl
        rw [← hplain]
        exact .plain hfinally
      let site : CallSite := ⟨s.step.slotMap, s.vars, s.step.collectPath⟩
      have hframes := entryContext_frames ⟨tryId, [], protect⟩ s.vars s.index s.step s.state
        s.before
      have hperform : performWithin registry limit
          (protect (s.step.inputs.input ⟨s.state, s.vars⟩) site)
          (entryContext ⟨tryId, [], protect⟩ s.vars s.index s.step s.state s.before) =
            some (.error i.raised, e) :=
        (protect_eq_some _ hframes rfl).mpr ⟨_, e, _, e, hrun, hhandled, hconcluded⟩
      obtain ⟨f, hstep, hf⟩ := PendingStep.run_of_interrupted hget
        (Context.mayStart_of_succ htime) hperform
      exact ⟨f, hstep, he.trans hf⟩
  | @task steps task hcall htasks hslot htime =>
      have hget : registry.get? s.step.call = some ⟨parallelId, [], parallel⟩ := by
        rw [hcall]
        exact hflow (parallelId, parallel) (by simp [Flow.functions])
      obtain ⟨e, hrun, he⟩ := runSlotFrom_of_inside hslot htime h
      let entered := entryContext ⟨parallelId, [], parallel⟩ s.vars s.index s.step s.state s.before
      let site : CallSite := ⟨s.step.slotMap, s.vars, s.step.collectPath⟩
      have hhas : site.hasSlot "tasks" = true := by
        refine (SlotMap.has_iff s.step.slotMap "tasks").mpr ?_
        rw [hslot]
        exact hsteps
      have hactive : entered.cancelled = false :=
        Context.not_cancelled_of_mayStart
          ((entryContext_mayStart 1 _ s.vars s.index s.step s.state s.before).trans htime)
      have hframes := entryContext_frames ⟨parallelId, [], parallel⟩ s.vars s.index s.step s.state
        s.before
      have hperform : performWithin registry limit
          (parallel (s.step.inputs.input ⟨s.state, s.vars⟩) site) entered =
            some (.error i.raised, e) := by
        rw [performWithin_parallel htasks hhas, eachTask_of_interrupted hframes hactive hrun]
        rfl
      obtain ⟨f, hstep, hf⟩ := PendingStep.run_of_interrupted hget
        (Context.mayStart_of_succ htime) hperform
      exact ⟨f, hstep, he.trans hf⟩

/-! ## §5. All levels -/

/-- A step that is interrupted is the end of its sequence. -/
theorem runWithin_of_interrupted {done later : List Step} {next : Step} {state vars reached : State}
    {e : Context} (hdone : runWithin registry limit done state vars c = some (.ok reached, e))
    (hnext : PendingStep.run registry limit ⟨next, done.length, reached, vars, e⟩ =
      some (.error i, d)) :
    runWithin registry limit (done ++ next :: later) state vars c = some (.error i, d) := by
  show runStepsFrom _ vars 0 (done ++ next :: later) state c = _
  rw [runStepsFrom_append]
  show Option.bind (runWithin registry limit done state vars c) _ = _
  rw [hdone, Nat.zero_add]
  show Option.bind (PendingStep.run registry limit ⟨next, done.length, reached, vars, e⟩) _ = _
  rw [hnext]
  rfl

/-- Any number of levels raises an interrupt as one level does. -/
theorem Chain.interrupted (hflow : registry.HasFlow) {depth : Nat} {s : PendingStep}
    {q : PendingSequence} (hchain : Chain registry limit depth s q)
    (h : q.run registry limit = some (.error i, d)) :
    ∃ e, s.run registry (limit + depth) = some (.error i.raised, e) ∧ d.Unwinds e := by
  -- from the innermost step outwards
  induction hchain with
  | last hopens => exact hopens.interrupted hflow h
  | @through depth s p q done later next reached c hopens hsteps hdone _ ih =>
      obtain ⟨e, hnext, he⟩ := ih h
      have hp : p.run registry (limit + depth) = some (.error i.raised, e) := by
        rw [PendingSequence.run, hsteps]
        exact runWithin_of_interrupted hdone hnext
      obtain ⟨f, hstep, hf⟩ := hopens.interrupted hflow hp
      rw [Interrupt.raised_raised] at hstep
      exact ⟨f, hstep, he.trans hf⟩

/-- **Interrupts survive nesting.**  However many steps of the two kinds stand around a sequence,
in whatever order: if it fails, the outermost step fails with the structured form of that very
failure, and a flow error is that form itself, so it comes out unchanged; if it ends in a signal,
the outermost step ends in the same signal.  The flag of the run, which may have been set in the
meantime, makes no difference.  On the way out nothing happens but that scopes are closed; the
flag stays as it is, unless a cleanup asks the run to stop. -/
theorem interrupts_survive_nesting (hflow : registry.HasFlow) {depth : Nat} {s : PendingStep}
    {q : PendingSequence} (hchain : Chain registry limit depth s q) (d : Context) :
    (∀ e : Fault, q.run registry limit = some (.error (.fault e), d) →
      ∃ d', s.run registry (limit + depth) = some (.error (.fault (.flow (Flow.normalized e))), d') ∧
        d.Unwinds d' ∧
        (d'.cancelled = true ↔ d.cancelled = true ∨ .cancelRequested ∈ d.eventsTo d')) ∧
    (∀ e : FlowError, q.run registry limit = some (.error (.fault (.flow e)), d) →
      ∃ d', s.run registry (limit + depth) = some (.error (.fault (.flow e)), d') ∧
        d.Unwinds d' ∧
        (d'.cancelled = true ↔ d.cancelled = true ∨ .cancelRequested ∈ d.eventsTo d')) ∧
    ∀ sig : Signal, q.run registry limit = some (.error (.signal sig), d) →
      ∃ d', s.run registry (limit + depth) = some (.error (.signal sig), d') ∧
        d.Unwinds d' ∧
        (d'.cancelled = true ↔ d.cancelled = true ∨ .cancelRequested ∈ d.eventsTo d') := by
  have hout : ∀ {i : Interrupt}, q.run registry limit = some (.error i, d) →
      ∃ d', s.run registry (limit + depth) = some (.error i.raised, d') ∧ d.Unwinds d' ∧
        (d'.cancelled = true ↔ d.cancelled = true ∨ .cancelRequested ∈ d.eventsTo d') := by
    intro i h
    obtain ⟨d', hrun, hd'⟩ := hchain.interrupted hflow h
    exact ⟨d', hrun, hd', hd'.cancelled_iff⟩
  exact ⟨fun e h => hout h, fun e h => hout h, fun sig h => hout h⟩

/-- The standard functions and one that asks the run to stop and fails. -/
def quitting : Registry :=
  Registry.standard.register "quit" fun _ _ => do
    Action.ask .cancel
    Action.raise (.flow "quit" "Quit" (some (.nat 7)))

theorem quitting_hasFlow : quitting.HasFlow :=
  Registry.standard_hasFlow.register (by decide) _

/-- Two levels: a protected sequence, in it after another step one task, and there the failure. -/
def quitInside : PendingStep where
  step := ⟨tryId, .empty, .empty, [],
    some [.ofCall Builtin.setId,
      ⟨parallelId, ⟨[], [("tasks", .required (.arr [.null]))]⟩, .empty,
        [("tasks", [.ofCall "quit"])], none, none⟩], none⟩
  index := 0
  state := []
  vars := []
  before := .start .info false none

/-- The failure comes out as it was raised, though the run is cancelled by then. -/
theorem quitInside_survives : ∃ (q : PendingSequence) (d d' : Context),
    Chain quitting 1 2 quitInside q ∧
      q.run quitting 1 = some (.error (.fault (.flow ⟨"quit", "Quit", some (.nat 7)⟩)), d) ∧
      quitInside.run quitting 3 =
        some (.error (.fault (.flow ⟨"quit", "Quit", some (.nat 7)⟩)), d') ∧
      d'.cancelled = true := by
  have hchain : ∃ q d, Chain quitting 1 2 quitInside q ∧
      q.run quitting 1 = some (.error (.fault (.flow ⟨"quit", "Quit", some (.nat 7)⟩)), d) ∧
      d.cancelled = true :=
    ⟨_, _, .through (.guarded rfl rfl rfl rfl rfl)
      (show _ = [Step.ofCall Builtin.setId] ++ _ :: [] from rfl) rfl
      (.last (.task rfl rfl rfl rfl)), rfl, rfl⟩
  obtain ⟨q, d, hchain, hfails, hcancelled⟩ := hchain
  obtain ⟨d', hrun, -, hd'⟩ :=
    (interrupts_survive_nesting quitting_hasFlow hchain d).2.1 _ hfails
  exact ⟨q, d, d', hchain, hfails, hrun, hd'.mpr (.inl hcancelled)⟩

end Engine

end StepFlow
