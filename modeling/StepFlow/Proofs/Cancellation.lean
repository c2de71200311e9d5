import StepFlow.Proofs.Cleanup

/-
  StepFlow.Proofs.Cancellation
  ────────────────────────────
  Cancellation is final.

  Functions may turn the fault of a cancelled run into data and go on, and loops
  and recovery do so.  `cancellation_final`: it helps them nothing.  Once the flag
  is set it stays set, no step, slot or called function starts at any level, and
  calls and nested runs are refused on the spot with nothing changed.

  The flag and the journal go together: the flag is set exactly if it was set at
  the start or the journal shows a request to stop, be it one of a function, of the
  clock or of a cleanup.  That and the guard on every start are laws of the single
  moves; whole runs have them by induction.
-/

namespace StepFlow

/-! ## §1. The flag and the events -/

/-- No event that starts a part comes after one that asks the run to stop. -/
def Event.NoStartAfterCancel (es : List Event) : Prop :=
  es.Pairwise fun e f => e = .cancelRequested → f.isStart = false

theorem Event.NoStartAfterCancel.of_no_start {es : List Event}
    (h : ∀ e ∈ es, e.isStart = false) : NoStartAfterCancel es := by
  induction es with
  | nil => exact .nil
  | cons e es ih =>
      refine .cons (fun f hf _ => h f (List.mem_cons_of_mem e hf)) (ih fun f hf => ?_)
      exact h f (List.mem_cons_of_mem e hf)

namespace Context.Evolves

variable {c d : Context} {es : List Event}

/-- Closing a scope starts nothing. -/
theorem not_isStart_of_mem_closing {scope : Scope} :
    ∀ e ∈ .scopeClosed :: Event.ofCleanups scope, e.isStart = false := by
  intro e he
  rcases List.mem_cons.mp he with rfl | he
  · rfl
  · rcases Event.of_mem_ofCleanups he with ⟨k, rfl⟩ | rfl | ⟨error, rfl⟩ <;> rfl

theorem ne_cancelRequested_of_isReport {e : Event} (he : e.isReport) : e ≠ .cancelRequested := by
  rintro rfl
  cases he

theorem ne_cancelRequested_of_isStart {e : Event} (he : e.isStart) : e ≠ .cancelRequested := by
  rintro rfl
  cases he

/-- The flag is set if it was, or if the run was asked to stop in the meantime. -/
theorem cancelled_iff (h : Evolves c es d) :
    d.cancelled = true ↔ c.cancelled = true ∨ .cancelRequested ∈ es := by
  induction h with
  | refl c => simp
  | trans _ _ ih ih' => rw [ih', ih, List.mem_append, or_assoc]
  | report c he =>
      have := (ne_cancelRequested_of_isReport he).symm
      simp [record, this]
  | start c he _ =>
      have := (ne_cancelRequested_of_isStart he).symm
      simp [record, this]
  | wait c _ left => simp
  | cancel c => simp [Context.cancel, record]
  | openScope c => simp [Context.openScope, record]
  | closeScope c hc =>
      -- a cleanup that holds the token sets the flag, and its event comes with it
      rw [closeScope_eq hc, List.mem_cons, Event.cancelRequested_mem_ofCleanups]
      simp
  | defer c k => simp
  | within frame _ ih => exact ih

/-- Nothing starts on a run whose flag is set. -/
theorem not_isStart (h : Evolves c es d) (hc : c.cancelled = true) :
    ∀ e ∈ es, e.isStart = false := by
  induction h with
  | refl c => intro e he; cases he
  | trans h _ ih ih' =>
      intro e he
      rcases List.mem_append.mp he with he | he
      · exact ih hc e he
      · exact ih' (h.cancelled_iff.mpr (.inl hc)) e he
  | report c he =>
      intro e hmem
      obtain rfl := List.mem_singleton.mp hmem
      cases e <;> first | rfl | cases he
  | start c _ hfalse =>
      -- the guard of a start says that the flag is not set
      rw [hc] at hfalse
      cases hfalse
  | wait c _ left => intro e he; cases he
  | cancel c => intro e he; obtain rfl := List.mem_singleton.mp he; rfl
  | openScope c => intro e he; obtain rfl := List.mem_singleton.mp he; rfl
  | closeScope c _ => exact not_isStart_of_mem_closing
  | defer c k => intro e he; obtain rfl := List.mem_singleton.mp he; rfl
  | within frame _ ih => exact ih hc

theorem noStartAfterCancel (h : Evolves c es d) : Event.NoStartAfterCancel es := by
  induction h with
  | refl c => exact .nil
  | trans h h' ih ih' =>
      -- across the two lists: the first one has set the flag that the second one starts under
      refine List.pairwise_append.mpr ⟨ih, ih', ?_⟩
      intro e he f hf hcancel
      exact h'.not_isStart (h.cancelled_iff.mpr (.inr (hcancel ▸ he))) f hf
  | report c _ => exact List.pairwise_singleton _ _
  | start c _ _ => exact List.pairwise_singleton _ _
  | wait c _ left => exact .nil
  | cancel c => exact List.pairwise_singleton _ _
  | openScope c => exact List.pairwise_singleton _ _
  | closeScope c _ => exact .of_no_start not_isStart_of_mem_closing
  | defer c k => exact List.pairwise_singleton _ _
  | within frame _ ih => exact ih

end Context.Evolves

/-! ## §2. What is refused -/

namespace Context

theorem tick_of_cancelled {c : Context} (hc : c.cancelled = true) : c.tick = c := by
  unfold tick
  rw [if_pos hc]

end Context

theorem Run.unlessCancelled_of_cancelled {α : Type} (body : Run (Outcome α)) {c : Context}
    (hc : c.cancelled = true) : unlessCancelled body c = some (.error (.fault .cancelled), c) := by
  rw [unlessCancelled_apply, Context.tick_of_cancelled hc, if_pos hc]

namespace Engine

theorem runStepsFrom_of_cancelled (caller : Caller) (vars : State) (index : Nat) (step : Step)
    (rest : List Step) (state : State) {c : Context} (hc : c.cancelled = true) :
    runStepsFrom caller vars index (step :: rest) state c =
      some (.error (.fault .cancelled), c) := by
  show Option.bind (runStep caller vars index step state c) _ = _
  rw [runStep, Run.unlessCancelled_of_cancelled _ hc]
  rfl

/-- A sequence runs as its first part, and if that has a state, its second part from there. -/
theorem runStepsFrom_append (caller : Caller) (vars : State) (xs ys : List Step) :
    ∀ (index : Nat) (state : State),
      runStepsFrom caller vars index (xs ++ ys) state = do
        match ← runStepsFrom caller vars index xs state with
        | .ok state => runStepsFrom caller vars (index + xs.length) ys state
        | .error i => return .error i := by
  induction xs with
  | nil => intro index state; rfl
  | cons x xs ih =>
      intro index state
      -- both sides run the first step and differ in what comes after it
      simp only [List.cons_append, runStepsFrom, bind_assoc]
      congr 1
      funext r
      cases r with
      | ok state =>
          show runStepsFrom caller vars (index + 1) (xs ++ ys) state = _
          rw [ih, List.length_cons, Nat.add_right_comm, Nat.add_assoc]
      | error i => rfl

/-- A sequence that is cancelled after a step that is not its last one ends with that. -/
theorem runWithin_of_cancelled_between {registry : Registry} {limit : Nat}
    {done : List Step} {next : Step} {rest : List Step} {state vars reached : State}
    {c d : Context} (h : runWithin registry limit done state vars c = some (.ok reached, d))
    (hd : d.cancelled = true) :
    runWithin registry limit (done ++ next :: rest) state vars c =
      some (.error (.fault .cancelled), d) := by
  show runStepsFrom _ vars 0 (done ++ next :: rest) state c = _
  rw [runStepsFrom_append]
  show Option.bind (runWithin registry limit done state vars c) _ = _
  rw [h]
  exact runStepsFrom_of_cancelled _ vars _ next rest reached hd

end Engine

/-! ## §3. Cancellation is final -/

/-- A run whose token was cancelled before does nothing but say so. -/
theorem Session.executeWithin_of_cancelled (limit : Nat) (registry : Registry)
    (settings : Settings) (step : Step) (rest : List Step) (initial : State) :
    executeWithin limit registry settings true (step :: rest) initial =
      some ⟨.error .cancelled, [.runStarted (rest.length + 1), .runCancelled]⟩ := by
  have hrun : Engine.runWithin registry limit (step :: rest) initial []
      (stepsContext settings true (step :: rest)) =
        some (.error (.fault .cancelled), stepsContext settings true (step :: rest)) :=
    Engine.runStepsFrom_of_cancelled _ [] 0 step rest initial rfl
  -- nothing was registered, so closing the context adds nothing
  unfold executeWithin
  rw [stepsContext] at hrun
  simp only [hrun]
  rfl

/-- What it means that cancellation is final, for the runs of a registry within a limit. -/
structure CancellationFinal (registry : Registry) (limit : Nat) : Prop where
  /-- Whatever a program does once the flag is set: the flag stays set, and no step, slot or
  called function starts. -/
  stays : ∀ {α : Type} (p : Program α) (c d : Context) (a : α), c.cancelled = true →
    Engine.perform (Engine.answer registry (Engine.enter registry limit)) limit p c =
      some (a, d) →
    d.cancelled = true ∧ ∀ e ∈ c.eventsTo d, e.isStart = false
  /-- Whatever a program does at all: the flag is set at its end exactly if it was set before
  or the run was asked to stop in the meantime, at whatever level, and from that moment on no
  step, slot or called function starts. -/
  stops : ∀ {α : Type} (p : Program α) (c d : Context) (a : α),
    Engine.perform (Engine.answer registry (Engine.enter registry limit)) limit p c =
      some (a, d) →
    (d.cancelled = true ↔ c.cancelled = true ∨ .cancelRequested ∈ c.eventsTo d) ∧
      Event.NoStartAfterCancel (c.eventsTo d)
  /-- Calls are refused, and change nothing. -/
  call : ∀ (id : String) (input : State) (site : CallSite) (c : Context), c.cancelled = true →
    Engine.answer registry (Engine.enter registry limit) (.call id input site) c =
      some (.error (.fault .cancelled), c)
  /-- Slots are refused, and change nothing. -/
  runSlot : ∀ (name : String) (state vars : Option State) (c : Context), c.cancelled = true →
    Engine.answer registry (Engine.enter registry limit) (.runSlot name state vars) c =
      some (.error (.fault .cancelled), c)
  /-- Children are refused, and change nothing. -/
  runChildren : ∀ (steps : List Step) (state vars : Option State) (c : Context),
    c.cancelled = true →
    Engine.answer registry (Engine.enter registry limit) (.runChildren steps state vars) c =
      some (.error (.fault .cancelled), c)
  /-- A sequence whose flag is set when steps before its last one have given a state ends as
  cancelled. -/
  between : ∀ (done : List Step) (next : Step) (rest : List Step) (state vars reached : State)
    (c d : Context), Engine.runWithin registry limit done state vars c = some (.ok reached, d) →
    d.cancelled = true →
    Engine.runWithin registry limit (done ++ next :: rest) state vars c =
      some (.error (.fault .cancelled), d)
  /-- The journal of a whole run shows no start after a request to stop. -/
  journal : ∀ (settings : Settings) (cancelled : Bool) (steps : List Step) (initial : State)
    (report : Report),
    Session.executeWithin limit registry settings cancelled steps initial = some report →
    Event.NoStartAfterCancel report.journal
  /-- A run that is cancelled before it starts, with at least one step, is over at once. -/
  before : ∀ (settings : Settings) (step : Step) (rest : List Step) (initial : State),
    Session.executeWithin limit registry settings true (step :: rest) initial =
      some ⟨.error .cancelled, [.runStarted (rest.length + 1), .runCancelled]⟩

theorem Session.not_isStart_endEvent (outcome : Except Fault State) :
    (endEvent outcome).isStart = false := by
  cases outcome with
  | ok state => rfl
  | error e =>
      rw [endEvent]
      split <;> rfl

theorem Session.journal_noStartAfterCancel {limit : Nat} {registry : Registry}
    {settings : Settings} {cancelled : Bool} {steps : List Step} {initial : State}
    {report : Report}
    (h : executeWithin limit registry settings cancelled steps initial = some report) :
    Event.NoStartAfterCancel report.journal := by
  obtain ⟨es, d, hes, -, hjournal⟩ := executeWithin_eq_some h
  have hend : ∀ e ∈ endEvent report.outcome :: Event.ofCleanups d.root, e.isStart = false := by
    intro e he
    rcases List.mem_cons.mp he with rfl | he
    · exact not_isStart_endEvent _
    · exact Context.Evolves.not_isStart_of_mem_closing e (List.mem_cons_of_mem _ he)
  -- after the steps come the end of the run and its last cleanups: no start among them
  rw [hjournal]
  refine .cons (fun f _ hcancel => ?_) (List.pairwise_append.mpr ⟨hes.noStartAfterCancel, ?_, ?_⟩)
  · cases hcancel
  · exact Event.NoStartAfterCancel.of_no_start hend
  · intro e _ f hf _
    exact hend f hf

/-- **Cancellation is final**, for every registry and every run. -/
theorem cancellation_final (registry : Registry) (limit : Nat) :
    CancellationFinal registry limit where
  stays p c d a hc h := by
    obtain ⟨es, hes⟩ := Engine.perform_evolves registry limit p c a d h
    rw [hes.eventsTo_eq]
    exact ⟨hes.cancelled_iff.mpr (.inl hc), hes.not_isStart hc⟩
  stops p c d a h := by
    obtain ⟨es, hes⟩ := Engine.perform_evolves registry limit p c a d h
    rw [hes.eventsTo_eq]
    exact ⟨hes.cancelled_iff, hes.noStartAfterCancel⟩
  call _ _ _ _ hc := Run.unlessCancelled_of_cancelled _ hc
  runSlot _ _ _ _ hc := Run.unlessCancelled_of_cancelled _ hc
  runChildren _ _ _ _ hc := Run.unlessCancelled_of_cancelled _ hc
  between _ _ _ _ _ _ _ _ h hd := Engine.runWithin_of_cancelled_between h hd
  journal _ _ _ _ _ h := Session.journal_noStartAfterCancel h
  before := Session.executeWithin_of_cancelled limit registry

/-- A cleanup of the first step asks the run to stop.  It runs when that step ends, and the second
step does not start. -/
example :
    let stopping : Function := fun _ _ => do
      Action.ask (.defer ⟨.str "stop", none⟩ true)
      return .null
    (Session.executeWithin 1 (Registry.empty.register "f" stopping) .default false
        [.ofCall "f", .ofCall "f"] []).map
      (fun r => (r.outcome, r.journal.filter Event.isStart)) =
        some (.error .cancelled, [.stepStarted 0 "f", .entered "f"]) := rfl

end StepFlow
