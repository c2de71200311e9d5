import StepFlow.Proofs.Cancellation

/-
  StepFlow.Proofs.Performing
  ──────────────────────────
  How the actions of a function are carried out.

  A program made of two parts runs as the first part and then the second one, and
  an action does so unless the first part is interrupted.  With one equation for
  each request, the run of a function can be read off its text.

  A slot runs from what the frame on top holds.  Nested runs leave the frames
  alone, so all slots that a function runs start from the state of its own step:
  `runSlotFrom` is the run of a slot with that state given outright, and a `SlotRun`
  holds all there is to know about one.

  A part starts if the run is not cancelled and has time left for it (`mayStart`).
  `callStep_of_resolve`: a step that may start with its function runs the function
  in the step's own frame and scope.  `runSlotFrom_starts` and `runSlotFrom_refused`:
  a slot begins with its first step, or it is refused and no step starts.
-/

namespace StepFlow

/-! ## §1. Starting -/

namespace Context

/-- Whether so many more parts may start, one after the other: the run is not cancelled and has
time for them. -/
def mayStart (c : Context) (parts : Nat) : Bool :=
  !c.cancelled && match c.clock with
    | none => true
    | some left => decide (parts ≤ left)

/-- The passing of time takes the time for one part. -/
theorem mayStart_tick (c : Context) (parts : Nat) :
    c.tick.mayStart parts = c.mayStart (parts + 1) := by
  obtain ⟨root, inner, frames, cancelled, clock, logLevel, journal⟩ := c
  cases cancelled with
  | true => rfl
  | false =>
      match clock with
      | none => rfl
      | some 0 =>
          -- time is up, which cancels the run
          simp [tick, mayStart, cancel, record]
      | some (left + 1) => simp [tick, mayStart]

theorem mayStart_of_succ {c : Context} {parts : Nat} (hc : c.mayStart (parts + 1) = true) :
    c.mayStart parts = true := by
  unfold mayStart at hc ⊢
  cases hclock : c.clock with
  | none =>
      rw [hclock] at hc
      exact hc
  | some left =>
      rw [hclock] at hc
      simp only [Bool.and_eq_true, decide_eq_true_eq] at hc ⊢
      exact ⟨hc.1, Nat.le_of_succ_le hc.2⟩

theorem not_cancelled_of_mayStart {c : Context} {parts : Nat} (hc : c.mayStart parts = true) :
    c.cancelled = false := by
  unfold mayStart at hc
  cases hflag : c.cancelled with
  | false => rfl
  | true =>
      rw [hflag] at hc
      cases hc

theorem cancelled_tick (c : Context) : c.tick.cancelled = !c.mayStart 1 := by
  rw [← mayStart_tick]
  unfold mayStart
  cases c.tick.clock with
  | none => simp
  | some left => simp

theorem tick_active {c : Context} (hc : c.mayStart 1 = true) : c.tick.cancelled = false := by
  rw [cancelled_tick, hc]
  rfl

theorem tick_cancels {c : Context} (hc : c.mayStart 1 = false) : c.tick.cancelled = true := by
  rw [cancelled_tick, hc]
  rfl

/-- Time passes without an event, as long as it is not up. -/
theorem tick_evolves_of_mayStart {c : Context} (hc : c.mayStart 1 = true) :
    Evolves c [] c.tick := by
  have hactive := tick_active hc
  unfold tick at hactive ⊢
  split
  · exact .refl c
  · split
    · exact .refl c
    · next hflag _ hclock =>
        rw [if_neg hflag, hclock] at hactive
        cases hactive
    · next left hleft => exact .wait c hleft left

/-- The passing of time starts nothing. -/
theorem tick_evolves_quietly (c : Context) :
    ∃ es, Evolves c es c.tick ∧ ∀ e ∈ es, e.isStart = false := by
  unfold tick
  split
  · exact ⟨[], .refl c, fun e he => nomatch he⟩
  · split
    · exact ⟨[], .refl c, fun e he => nomatch he⟩
    · refine ⟨_, .cancel c, fun e he => ?_⟩
      obtain rfl := List.mem_singleton.mp he
      rfl
    · next left hleft => exact ⟨[], .wait c hleft left, fun e he => nomatch he⟩

end Context

namespace Run

variable {α : Type} {c d : Context} {r : Outcome α}

/-- A part that may start does. -/
theorem unlessCancelled_of_mayStart (body : Run (Outcome α)) (hc : c.mayStart 1 = true) :
    unlessCancelled body c = body c.tick := by
  rw [unlessCancelled_apply, Context.tick_active hc]
  rfl

/-- A part that may not start is refused. -/
theorem unlessCancelled_of_not_mayStart (body : Run (Outcome α)) (hc : c.mayStart 1 = false) :
    unlessCancelled body c = some (.error (.fault .cancelled), c.tick) := by
  rw [unlessCancelled_apply, if_pos (Context.tick_cancels hc)]

end Run

namespace Engine

variable {α β : Type}

/-! ## §2. Actions -/

theorem perform_bind (answer : (r : Request) → Run r.Reply) (limit : Nat) (p : Program α)
    (f : α → Program β) :
    perform answer limit (p.bind f) = (do
      let a ← perform answer limit p
      perform answer limit (f a)) := by
  induction p with
  | done a => rfl
  | ask r next ih =>
      simp only [Program.bind, perform, bind_assoc]
      congr 1
      funext x
      exact ih x f
  | inScope body next _ ih =>
      simp only [Program.bind, perform, bind_assoc]
      congr 1
      funext b
      exact ih b f
  | rounds round first next _ ih =>
      simp only [Program.bind, perform, bind_assoc]
      congr 1
      funext b
      exact ih b f

variable {registry : Registry} {limit : Nat} {c d : Context}

@[simp] theorem performWithin_ofOutcome (x : Outcome α) :
    performWithin registry limit (Action.ofOutcome x) = pure x := by
  cases x <;> rfl

/-- One action after another: an interrupt of the first is the end. -/
theorem performWithin_bind (m : Action α) (f : α → Action β) :
    performWithin registry limit (m >>= f) = (do
      match ← performWithin registry limit m with
      | .ok a => performWithin registry limit (f a)
      | .error i => return .error i) := by
  show perform _ limit (m.run.bind _) = _
  rw [perform_bind]
  congr 1
  funext r
  cases r <;> rfl

@[simp] theorem performWithin_trySlot (name : String) (state vars : Option State) :
    performWithin registry limit (Action.trySlot name state vars) = (do
      let r ← runSlot (callWithin registry limit) name state vars
      return .ok r) := rfl

/-- What comes after a slot goes on from its outcome. -/
theorem performWithin_trySlot_then (name : String) (state vars : Option State)
    (next : Outcome State → Action α) (c : Context) :
    performWithin registry limit (Action.trySlot name state vars >>= next) c =
      (runSlot (callWithin registry limit) name state vars c).bind
        fun p => performWithin registry limit (next p.1) p.2 := by
  rw [performWithin_bind, performWithin_trySlot]
  show Option.bind (Option.bind (runSlot _ name state vars c) _) _ = _
  rw [Option.bind_assoc]
  rfl

@[simp] theorem performWithin_runSlot (name : String) (state vars : Option State) :
    performWithin registry limit (Action.runSlot name state vars) =
      runSlot (callWithin registry limit) name state vars := by
  rw [Action.runSlot, performWithin_bind, performWithin_trySlot]
  simp

/-- What comes after a look at the flag. -/
theorem performWithin_ensureActive_bind (f : Unit → Action α) (c : Context) :
    performWithin registry limit (Action.ensureActive >>= f) c =
      if c.cancelled then some (.error (.fault .cancelled), c)
      else performWithin registry limit (f ()) c := by
  have hactive : performWithin registry limit Action.ensureActive c =
      some (if c.cancelled then .error (.fault .cancelled) else .ok (), c) := by
    show perform _ limit (if c.cancelled then _ else _) c = _
    split <;> rfl
  rw [performWithin_bind]
  show Option.bind (performWithin registry limit Action.ensureActive c) _ = _
  rw [hactive]
  split <;> rfl

/-- An action whose result is only put into another form. -/
theorem performWithin_map (f : α → β) (m : Action α) (c : Context) :
    performWithin registry limit (do return f (← m)) c =
      (performWithin registry limit m c).map fun p => (p.1.map f, p.2) := by
  rw [performWithin_bind]
  show Option.bind (performWithin registry limit m c) _ = _
  match performWithin registry limit m c with
  | none => rfl
  | some (.ok a, d) => rfl
  | some (.error i, d) => rfl

/-- How two actions, one after the other, come to an end. -/
theorem performWithin_bind_eq_some {m : Action α} {f : α → Action β} {r : Outcome β} :
    performWithin registry limit (m >>= f) c = some (r, d) ↔
      (∃ a e, performWithin registry limit m c = some (.ok a, e) ∧
        performWithin registry limit (f a) e = some (r, d)) ∨
      ∃ i, performWithin registry limit m c = some (.error i, d) ∧ r = .error i := by
  rw [performWithin_bind, Run.bind_eq_some]
  constructor
  · rintro ⟨x, e, hm, hrest⟩
    cases x with
    | ok a => exact .inl ⟨a, e, hm, hrest⟩
    | error i =>
        obtain ⟨rfl, rfl⟩ := Run.pure_eq_some.mp hrest
        exact .inr ⟨i, hm, rfl⟩
  · rintro (⟨a, e, hm, hf⟩ | ⟨i, hm, rfl⟩)
    · exact ⟨.ok a, e, hm, hf⟩
    · exact ⟨.error i, d, hm, rfl⟩

/-- A first part that is never interrupted; `ends` says how it may end. -/
theorem performWithin_bind_iff {γ : Type} {m : Action α} {f : α → Action β} {r : Outcome β}
    {ends : γ → Context → Prop} {value : γ → α}
    (hm : ∀ x e, performWithin registry limit m c = some (x, e) ↔
      ∃ y, ends y e ∧ x = .ok (value y)) :
    performWithin registry limit (m >>= f) c = some (r, d) ↔
      ∃ y e, ends y e ∧ performWithin registry limit (f (value y)) e = some (r, d) := by
  rw [performWithin_bind_eq_some]
  constructor
  · rintro (⟨a, e, ha, hf⟩ | ⟨i, hi, -⟩)
    · obtain ⟨y, hy, ⟨⟩⟩ := (hm (.ok a) e).mp ha
      exact ⟨y, e, hy, hf⟩
    · obtain ⟨y, -, hy⟩ := (hm (.error i) d).mp hi
      cases hy
  · rintro ⟨y, e, hy, hf⟩
    exact .inl ⟨value y, e, (hm (.ok (value y)) e).mpr ⟨y, hy, rfl⟩, hf⟩

/-! ## §3. Slots -/

/-- Run a slot out of a slot table, from the given state and slot variables. -/
def runSlotFrom (caller : Caller) (slots : SlotMap) (name : String) (state vars : State) :
    Run (Outcome State) :=
  Run.unlessCancelled do
    let steps := (SlotMap.resolve slots name).getD []
    Run.record (.slotStarted name steps.length)
    Run.inScope (runSteps caller steps state vars)

/-- A slot runs from what the frame on top holds. -/
theorem runSlot_eq_runSlotFrom {frame : Frame} {rest : List Frame}
    (hframes : c.frames = frame :: rest) (caller : Caller) (name : String)
    (state vars : Option State) :
    runSlot caller name state vars c =
      runSlotFrom caller frame.slots name (state.getD frame.state) (vars.getD frame.vars) c := by
  rw [runSlot, runSlotFrom, Run.unlessCancelled_apply, Run.unlessCancelled_apply]
  split
  · rfl
  · -- the passing of time leaves the frame where it is
    have htick : c.tick.frames = frame :: rest := by rw [Context.tick_frames, hframes]
    rw [Run.get_bind_apply]
    simp only [htick]

/-- A slot fails before it starts if there is no step whose slot it could be, or if it may not
start. -/
theorem runSlot_of_cannot_start (h : c.frames = [] ∨ c.mayStart 1 = false) (caller : Caller)
    (name : String) (state vars : Option State) :
    runSlot caller name state vars c =
      some (.error (.fault (if c.mayStart 1 then .runnerUnavailable "run_slot" else .cancelled)),
        c.tick) := by
  cases hc : c.mayStart 1 with
  | false => exact Run.unlessCancelled_of_not_mayStart _ hc
  | true =>
      have hframes : c.frames = [] := by simpa [hc] using h
      have htick : c.tick.frames = [] := by rw [Context.tick_frames, hframes]
      rw [runSlot, Run.unlessCancelled_of_mayStart _ hc, Run.get_bind_apply]
      simp only [htick]
      rfl

/-- The same with the slot run out of the frame on top. -/
theorem performWithin_trySlot_bind {frame : Frame} {rest : List Frame}
    (hframes : c.frames = frame :: rest) (name : String) (state vars : Option State)
    (next : Outcome State → Action α) :
    performWithin registry limit (Action.trySlot name state vars >>= next) c =
      (runSlotFrom (callWithin registry limit) frame.slots name (state.getD frame.state)
        (vars.getD frame.vars) c).bind fun p => performWithin registry limit (next p.1) p.2 := by
  rw [performWithin_trySlot_then, runSlot_eq_runSlotFrom hframes]

theorem runSlotFrom_evolves (registry : Registry) (limit : Nat) (slots : SlotMap) (name : String)
    (state vars : State) :
    Run.Evolving (runSlotFrom (callWithin registry limit) slots name state vars) :=
  .unlessCancelled (.start rfl (.inScope (runWithin_evolves registry limit _ state vars)))

/-- A slot that a function ran: from which state and with which slot variables, where the run
stood before and after it, and how it ended. -/
structure SlotRun where
  name : String
  state : State
  vars : State
  before : Context
  outcome : Outcome State
  after : Context

/-- The slot did run like that. -/
def SlotRun.Ran (caller : Caller) (run : SlotRun) : Prop :=
  runSlot caller run.name (some run.state) (some run.vars) run.before =
    some (run.outcome, run.after)

theorem SlotRun.Ran.evolves {run : SlotRun} (h : run.Ran (callWithin registry limit)) :
    ∃ es, run.before.Evolves es run.after :=
  runSlot_evolves (callWithin_evolves registry limit) _ _ _ _ _ _ h

/-! ## §4. Calls -/

/-- An id is answered by the function that is registered under it. -/
theorem resolve_of_get? {id : String} {entry : Entry} (hget : registry.get? id = some entry) :
    registry.resolve id = .ok ⟨entry, none⟩ := by
  simp only [Registry.resolve, hget]

theorem invoke_of_get? {id : String} {entry : Entry} (hget : registry.get? id = some entry)
    (invoker : Invoker) (input : State) (site : CallSite) :
    invoke registry invoker id input site = invoker entry input site := by
  rw [invoke, resolve_of_get? hget]

/-- A call enters the function that is registered under its id. -/
theorem callWithin_succ {id : String} {entry : Entry} (hget : registry.get? id = some entry)
    (input : State) (site : CallSite) :
    callWithin registry (limit + 1) id input site = Run.unlessCancelled (do
      Run.record (.entered entry.id)
      let result ← performWithin registry limit (entry.function input site)
      return result.map entry.restrict) := by
  rw [callWithin, call, invoke_of_get? hget]
  rfl

/-- A function is entered by running its program and holding the result to its outputs. -/
theorem enter_succ (entry : Entry) (input : State) (site : CallSite) (c : Context) :
    enter registry (limit + 1) entry input site c =
      (performWithin registry limit (entry.function input site) c).map
        fun p => (p.1.map entry.restrict, p.2) := by
  show Option.bind (performWithin registry limit (entry.function input site) c) _ = _
  cases performWithin registry limit (entry.function input site) c <;> rfl

/-- The context once a function was found for a call and entered. -/
def arrive (found : Resolution) (c : Context) : Context :=
  (match found.contract with
    | some contract => c.record (.contractResolved contract found.entry.id)
    | none => c).record (.entered found.entry.id)

theorem arrive_frames (found : Resolution) (c : Context) : (arrive found c).frames = c.frames := by
  unfold arrive
  cases found.contract <;> rfl

theorem arrive_mayStart (parts : Nat) (found : Resolution) (c : Context) :
    (arrive found c).mayStart parts = c.mayStart parts := by
  unfold arrive
  cases found.contract <;> rfl

/-- A call that may start enters the function that was found for it. -/
theorem callWithin_of_resolve {id : String} {found : Resolution}
    (hresolve : registry.resolve id = .ok found) (hc : c.mayStart 1 = true) (input : State)
    (site : CallSite) :
    callWithin registry (limit + 1) id input site c =
      (performWithin registry limit (found.entry.function input site) (arrive found c.tick)).map
        fun p => (p.1.map found.entry.restrict, p.2) := by
  rw [callWithin, call, Run.unlessCancelled_of_mayStart _ hc, invoke, hresolve, arrive]
  dsimp only
  cases found.contract with
  | none => exact enter_succ found.entry input site _
  | some contract => exact enter_succ found.entry input site _

/-- A function that declares no outputs is not held to any. -/
theorem map_restrict_of_no_outputs {entry : Entry} (h : entry.outputs = []) (x : Outcome Value) :
    x.map entry.restrict = x := by
  cases x with
  | error i => rfl
  | ok v => simp [Except.map, Entry.restrict, h]

/-- Such a function returns what its program gives. -/
theorem enter_of_no_outputs {entry : Entry} (h : entry.outputs = []) (input : State)
    (site : CallSite) (c : Context) :
    enter registry (limit + 1) entry input site c =
      performWithin registry limit (entry.function input site) c := by
  rw [enter_succ]
  cases performWithin registry limit (entry.function input site) c with
  | none => rfl
  | some p =>
      show some (p.1.map entry.restrict, p.2) = some p
      rw [map_restrict_of_no_outputs h]

/-- The context in which a step calls its function, with a frame and a scope of the step. -/
def callContext (vars : State) (index : Nat) (step : Step) (state : State) (c : Context) :
    Context :=
  (((c.tick.record (.stepStarted index step.call)).recordAll
    ((step.inputs.skippedInput ⟨state, vars⟩).map .spreadSkipped)).pushFrame
    ⟨step.slotMap, state, vars⟩).openScope

theorem callContext_frames (vars : State) (index : Nat) (step : Step) (state : State)
    (c : Context) :
    (callContext vars index step state c).frames = ⟨step.slotMap, state, vars⟩ :: c.frames := by
  show _ :: (Context.recordAll _ _).frames = _
  rw [Context.recordAll_eq]
  show _ :: c.tick.frames = _
  rw [Context.tick_frames]

/-- A step takes the time for one part before it calls its function. -/
theorem callContext_mayStart (parts : Nat) (vars : State) (index : Nat) (step : Step)
    (state : State) (c : Context) :
    (callContext vars index step state c).mayStart parts = c.mayStart (parts + 1) := by
  rw [← Context.mayStart_tick]
  show (Context.recordAll _ _).mayStart parts = _
  rw [Context.recordAll_eq]
  rfl

/-- The context in which the function that answers a step's call runs. -/
def invocationContext (found : Resolution) (vars : State) (index : Nat) (step : Step)
    (state : State) (c : Context) : Context :=
  arrive found (callContext vars index step state c).tick

theorem invocationContext_frames (found : Resolution) (vars : State) (index : Nat) (step : Step)
    (state : State) (c : Context) :
    (invocationContext found vars index step state c).frames =
      ⟨step.slotMap, state, vars⟩ :: c.frames := by
  rw [invocationContext, arrive_frames, Context.tick_frames, callContext_frames]

/-- A step and its call take the time for two parts before the function runs. -/
theorem invocationContext_mayStart (parts : Nat) (found : Resolution) (vars : State) (index : Nat)
    (step : Step) (state : State) (c : Context) :
    (invocationContext found vars index step state c).mayStart parts = c.mayStart (parts + 2) := by
  rw [invocationContext, arrive_mayStart, Context.mayStart_tick, callContext_mayStart]

/-- A step that may start together with its function runs the function in a frame and a scope
of its own, and takes both away again. -/
theorem callStep_of_resolve {step : Step} {found : Resolution}
    (hresolve : registry.resolve step.call = .ok found) (hc : c.mayStart 2 = true)
    (vars : State) (index : Nat) (state : State) :
    callStep (callWithin registry (limit + 1)) vars index step state c =
      (performWithin registry limit
        (found.entry.function (step.inputs.input ⟨state, vars⟩)
          ⟨step.slotMap, vars, step.collectPath⟩)
        (invocationContext found vars index step state c)).map
          fun p => (p.1.map found.entry.restrict, (p.2.closeTo c.depth).popFrame) := by
  let started := (c.tick.record (.stepStarted index step.call)).recordAll
    ((step.inputs.skippedInput ⟨state, vars⟩).map .spreadSkipped)
  have hdepth : (started.pushFrame ⟨step.slotMap, state, vars⟩).depth = c.depth := by
    show started.depth = c.depth
    rw [Context.depth_recordAll]
    exact c.depth_tick
  have hcalled : (callContext vars index step state c).mayStart 1 = true :=
    (callContext_mayStart 1 vars index step state c).trans hc
  rw [callStep, Run.unlessCancelled_of_mayStart _ (Context.mayStart_of_succ hc)]
  show Option.bind (Option.bind (callWithin registry (limit + 1) step.call _ _
    (callContext vars index step state c)) fun p => some (p.1, p.2.closeTo (started.pushFrame
      ⟨step.slotMap, state, vars⟩).depth)) (fun p => some (p.1, p.2.popFrame)) = _
  rw [callWithin_of_resolve hresolve hcalled, hdepth]
  show Option.bind (Option.bind (Option.map _ (performWithin registry limit _
    (invocationContext found vars index step state c))) _) _ = _
  cases performWithin registry limit _ (invocationContext found vars index step state c) <;> rfl

/-- What such a step makes of its state: the result of the function is merged into it. -/
theorem runStep_of_resolve {step : Step} {found : Resolution}
    (hresolve : registry.resolve step.call = .ok found) (hc : c.mayStart 2 = true)
    (vars : State) (index : Nat) (state : State) :
    runStep (callWithin registry (limit + 1)) vars index step state c =
      (performWithin registry limit
        (found.entry.function (step.inputs.input ⟨state, vars⟩)
          ⟨step.slotMap, vars, step.collectPath⟩)
        (invocationContext found vars index step state c)).bind
          fun p => mergeStep step state (p.1.map found.entry.restrict)
            (p.2.closeTo c.depth).popFrame := by
  rw [runStep_eq_keepStep (callWithin_evolves registry (limit + 1))]
  show Option.bind (callStep (callWithin registry (limit + 1)) vars index step state c)
    (fun p => mergeStep step state p.1 p.2) = _
  rw [callStep_of_resolve hresolve hc, Option.bind_map]
  rfl

/-- The same context for a function that is registered under the step's id itself. -/
def entryContext (entry : Entry) (vars : State) (index : Nat) (step : Step) (state : State)
    (c : Context) : Context :=
  let called := (((c.tick.record (.stepStarted index step.call)).recordAll
    ((step.inputs.skippedInput ⟨state, vars⟩).map .spreadSkipped)).pushFrame
    ⟨step.slotMap, state, vars⟩).openScope
  called.tick.record (.entered entry.id)

theorem entryContext_frames (entry : Entry) (vars : State) (index : Nat) (step : Step)
    (state : State) (c : Context) :
    (entryContext entry vars index step state c).frames =
      ⟨step.slotMap, state, vars⟩ :: c.frames :=
  invocationContext_frames ⟨entry, none⟩ vars index step state c

theorem entryContext_inner (entry : Entry) (vars : State) (index : Nat) (step : Step)
    (state : State) (c : Context) :
    (entryContext entry vars index step state c).inner = [] :: c.inner := by
  show Context.inner (Context.tick _) = _
  rw [Context.tick_inner]
  show [] :: Context.inner (Context.recordAll _ _) = _
  rw [Context.recordAll_eq]
  exact congrArg ([] :: ·) c.tick_inner

theorem entryContext_mayStart (parts : Nat) (entry : Entry) (vars : State) (index : Nat)
    (step : Step) (state : State) (c : Context) :
    (entryContext entry vars index step state c).mayStart parts = c.mayStart (parts + 2) :=
  invocationContext_mayStart parts ⟨entry, none⟩ vars index step state c

theorem callStep_of_mayStart {step : Step} {entry : Entry}
    (hget : registry.get? step.call = some entry) (hc : c.mayStart 2 = true) (vars : State)
    (index : Nat) (state : State) :
    callStep (callWithin registry (limit + 1)) vars index step state c =
      (performWithin registry limit
        (entry.function (step.inputs.input ⟨state, vars⟩) ⟨step.slotMap, vars, step.collectPath⟩)
        (entryContext entry vars index step state c)).map
          fun p => (p.1.map entry.restrict, (p.2.closeTo c.depth).popFrame) :=
  callStep_of_resolve (resolve_of_get? hget) hc vars index state

theorem runStep_of_mayStart {step : Step} {entry : Entry}
    (hget : registry.get? step.call = some entry) (hc : c.mayStart 2 = true) (vars : State)
    (index : Nat) (state : State) :
    runStep (callWithin registry (limit + 1)) vars index step state c =
      (performWithin registry limit
        (entry.function (step.inputs.input ⟨state, vars⟩) ⟨step.slotMap, vars, step.collectPath⟩)
        (entryContext entry vars index step state c)).bind
          fun p => mergeStep step state (p.1.map entry.restrict)
            (p.2.closeTo c.depth).popFrame :=
  runStep_of_resolve (resolve_of_get? hget) hc vars index state

/-! ## §5. The start of a slot -/

theorem runStep_starts {caller : Caller}
    (hcaller : ∀ id input site, Run.Evolving (caller id input site)) (hc : c.mayStart 1 = true)
    {vars state : State} {index : Nat} {step : Step} {r : Outcome State}
    (h : runStep caller vars index step state c = some (r, d)) :
    ∃ es, c.Evolves (.stepStarted index step.call :: es) d := by
  rw [runStep_eq_keepStep hcaller] at h
  obtain ⟨result, e, hcall, hmerge⟩ := Run.bind_eq_some.mp h
  rw [callStep, Run.unlessCancelled_of_mayStart _ hc] at hcall
  have hbody : Run.Evolving (do
      modify fun c => c.recordAll ((step.inputs.skippedInput ⟨state, vars⟩).map .spreadSkipped)
      Run.inFrame ⟨step.slotMap, state, vars⟩ (Run.inScope (caller step.call
        (step.inputs.input ⟨state, vars⟩) ⟨step.slotMap, vars, step.collectPath⟩))) :=
    .bind (skipped_evolves _) fun _ => .inFrame _ (.inScope (hcaller _ _ _))
  obtain ⟨es, hes⟩ := hbody (c.tick.record (.stepStarted index step.call)) _ _ hcall
  obtain ⟨fs, hfs⟩ := mergeStep_evolves step state result _ _ _ hmerge
  exact ⟨es ++ fs, (Context.tick_evolves_of_mayStart hc).trans
    ((Context.Evolves.start c.tick rfl (Context.tick_active hc)).trans (hes.trans hfs))⟩

variable {slots : SlotMap} {name : String} {first : Step} {others : List Step}

/-- A slot that may start runs its sequence in a scope of its own. -/
theorem runSlotFrom_of_mayStart {steps : List Step}
    (hslot : SlotMap.resolve slots name = some steps) (hc : c.mayStart 1 = true) (caller : Caller)
    (state vars : State) :
    runSlotFrom caller slots name state vars c =
      Run.inScope (runSteps caller steps state vars)
        (c.tick.record (.slotStarted name steps.length)) := by
  rw [runSlotFrom, Run.unlessCancelled_of_mayStart _ hc, hslot]
  rfl

/-- The events with which a slot begins that may start. -/
theorem openSlot_evolves (hc : c.mayStart 1 = true) (name : String) (count : Nat) :
    c.Evolves [.slotStarted name count, .scopeOpened]
      (c.tick.record (.slotStarted name count)).openScope :=
  (Context.tick_evolves_of_mayStart hc).trans
    ((Context.Evolves.start c.tick rfl (Context.tick_active hc)).trans (.openScope _))

/-- A slot that may start together with its first step begins with that. -/
theorem runSlotFrom_starts (hslot : SlotMap.resolve slots name = some (first :: others))
    (hc : c.mayStart 2 = true) {state vars : State} {r : Outcome State}
    (h : runSlotFrom (callWithin registry limit) slots name state vars c = some (r, d)) :
    [.slotStarted name (others.length + 1), .scopeOpened, .stepStarted 0 first.call] <+:
      c.eventsTo d := by
  have hone : c.mayStart 1 = true := Context.mayStart_of_succ hc
  let opened := (c.tick.record (.slotStarted name (others.length + 1))).openScope
  have hopened : opened.mayStart 1 = true := (c.mayStart_tick 1).trans hc
  rw [runSlotFrom_of_mayStart hslot hone] at h
  obtain ⟨e, hrun, rfl⟩ := Run.inScope_eq_some.mp h
  obtain ⟨x, f, hfirst, hrest⟩ := Run.bind_eq_some.mp hrun
  obtain ⟨es, hes⟩ := runStep_starts (callWithin_evolves registry limit) hopened hfirst
  obtain ⟨fs, hfs⟩ : ∃ fs, f.Evolves fs e := by
    cases x with
    | ok state =>
        exact runStepsFrom_evolves (callWithin_evolves registry limit) vars 1 others state _ _ _
          hrest
    | error i => exact Run.Evolving.pure _ _ _ _ hrest
  obtain ⟨gs, hgs⟩ := Context.closeScopes_evolves _ e
  have hall := (openSlot_evolves hone name (others.length + 1)).trans (hes.trans (hfs.trans hgs))
  rw [Context.closeTo, hall.eventsTo_eq]
  exact ⟨es ++ (fs ++ gs), rfl⟩

/-- A slot that may not start together with its first step is refused at one or the other. -/
theorem runSlotFrom_refused (hslot : SlotMap.resolve slots name = some (first :: others))
    (hc : c.mayStart 2 = false) {caller : Caller} {state vars : State} {r : Outcome State}
    (h : runSlotFrom caller slots name state vars c = some (r, d)) :
    r = .error (.fault .cancelled) ∧ d.cancelled = true ∧
      ∀ index id, .stepStarted index id ∉ c.eventsTo d := by
  cases hone : c.mayStart 1 with
  | false =>
      rw [runSlotFrom, Run.unlessCancelled_of_not_mayStart _ hone] at h
      cases h
      obtain ⟨es, hes, hquiet⟩ := c.tick_evolves_quietly
      refine ⟨rfl, Context.tick_cancels hone, fun index id hmem => ?_⟩
      rw [hes.eventsTo_eq] at hmem
      cases hquiet _ hmem
  | true =>
      -- the slot takes the last of the time, and its first step finds none left
      let opened := (c.tick.record (.slotStarted name (others.length + 1))).openScope
      have hopened : opened.mayStart 1 = false := (c.mayStart_tick 1).trans hc
      rw [runSlotFrom_of_mayStart hslot hone] at h
      obtain ⟨e, hrun, rfl⟩ := Run.inScope_eq_some.mp h
      have hrefused : runSteps caller (first :: others) state vars opened =
          some (.error (.fault .cancelled), opened.tick) := by
        show Option.bind (runStep caller vars 0 first state opened) _ = _
        rw [runStep, Run.unlessCancelled_of_not_mayStart _ hopened]
        rfl
      obtain ⟨rfl, rfl⟩ : .error (.fault .cancelled) = r ∧ opened.tick = e := by
        simpa using hrefused.symm.trans hrun
      have hcancelled : opened.tick.cancelled = true := Context.tick_cancels hopened
      obtain ⟨es, hes, hquiet⟩ := opened.tick_evolves_quietly
      obtain ⟨gs, hgs⟩ := Context.closeScopes_evolves _ opened.tick
      have hall := (openSlot_evolves hone name (others.length + 1)).trans (hes.trans hgs)
      refine ⟨rfl, hgs.cancelled_iff.mpr (.inl hcancelled), fun index id hmem => ?_⟩
      rw [Context.closeTo, hall.eventsTo_eq] at hmem
      have hlater : .stepStarted index id ∈ es ++ gs := by simpa using hmem
      rcases List.mem_append.mp hlater with hmem | hmem
      · cases hquiet _ hmem
      · cases hgs.not_isStart hcancelled _ hmem

end Engine

end StepFlow
