import StepFlow.Proofs.Evolution

/-
  StepFlow.Proofs.WriteOnly
  ─────────────────────────
  The journal is written and never read.

  A computation is `Blind` if it makes no difference to it what the journal holds
  when it begins: it ends the same way, in the same context, and adds the same
  events to whatever was there.  The ways to put computations together keep that,
  and so everything the engine runs is blind, whatever functions are registered
  (`callWithin_blind`).  The induction is on the limit, and inside of it on the program.
-/

namespace StepFlow

/-! ## §1. Contexts with a past -/

namespace Context

/-- The context with other events before those of its journal. -/
def after (c : Context) (past : List Event) : Context :=
  { c with journal := c.journal ++ past }

/-- A change of the context for which it makes no difference what the journal holds. -/
def Blind (f : Context → Context) : Prop :=
  ∀ c past, f (c.after past) = (f c).after past

theorem Blind.comp {f g : Context → Context} (hf : Blind f) (hg : Blind g) :
    Blind fun c => g (f c) := by
  intro c past
  show g (f (c.after past)) = _
  rw [hf, hg]

theorem record_blind (e : Event) : Blind fun c => c.record e :=
  fun _ _ => rfl

theorem recordAll_blind (es : List Event) : Blind fun c => c.recordAll es := by
  intro c past
  show (c.after past).recordAll es = (c.recordAll es).after past
  rw [recordAll_eq, recordAll_eq]
  simp [after]

theorem cancel_blind : Blind cancel :=
  fun _ _ => rfl

theorem tick_blind : Blind tick := by
  intro c past
  obtain ⟨root, inner, frames, cancelled, clock, logLevel, journal⟩ := c
  cases cancelled with
  | true => rfl
  | false =>
      match clock with
      | none => rfl
      | some 0 => rfl
      | some (left + 1) => rfl

theorem openScope_blind : Blind openScope :=
  fun _ _ => rfl

theorem closeScope_blind : Blind closeScope := by
  intro c past
  cases hinner : c.inner with
  | nil =>
      have hafter : (c.after past).inner = [] := hinner
      rw [closeScope_eq_self hinner, closeScope_eq_self hafter]
  | cons scope rest =>
      have hafter : (c.after past).inner = scope :: rest := hinner
      rw [closeScope_eq hinner, closeScope_eq hafter]
      simp [after]

theorem closeScopes_blind (n : Nat) : Blind (closeScopes n) := by
  induction n with
  | zero =>
      intro c past
      rfl
  | succ n ih => exact closeScope_blind.comp ih

theorem closeTo_blind (keep : Nat) : Blind fun c => c.closeTo keep := by
  intro c past
  exact closeScopes_blind (c.depth - keep) c past

theorem defer_blind (k : Cleanup) : Blind fun c => c.defer k := by
  intro c past
  obtain ⟨root, inner, frames, cancelled, clock, logLevel, journal⟩ := c
  cases inner <;> rfl

/-- Waiting ends the same way, if it ends. -/
theorem awaitCancel_after (c : Context) (past : List Event) :
    (c.after past).awaitCancel = c.awaitCancel.map fun d => d.after past := by
  obtain ⟨root, inner, frames, cancelled, clock, logLevel, journal⟩ := c
  cases cancelled with
  | true => rfl
  | false => cases clock <;> rfl

end Context

/-! ## §2. Computations -/

namespace Run

variable {α β σ : Type}

/-- A computation that does not look at the journal and only adds to it. -/
def Blind (m : Run α) : Prop :=
  ∀ (c : Context) (past : List Event),
    m (c.after past) = (m c).map fun p => (p.1, p.2.after past)

theorem Blind.pure (a : α) : Blind (pure a : Run α) :=
  fun _ _ => rfl

theorem Blind.exhausted : Blind (exhausted : Run α) :=
  fun _ _ => rfl

theorem Blind.modify {f : Context → Context} (hf : Context.Blind f) :
    Blind (modify f : Run Unit) := by
  intro c past
  show some ((), f (c.after past)) = some ((), (f c).after past)
  rw [hf]

theorem Blind.record (e : Event) : Blind (record e) :=
  .modify (Context.record_blind e)

theorem Blind.bind {m : Run α} {f : α → Run β} (hm : Blind m) (hf : ∀ a, Blind (f a)) :
    Blind (m >>= f) := by
  intro c past
  rw [bind_apply, bind_apply, hm]
  cases m c with
  | none => rfl
  | some p => exact hf p.1 p.2 past

/-- What goes on from a part of the context other than the journal. -/
theorem Blind.look (view : Context → β) (hview : ∀ c past, view (c.after past) = view c)
    {f : β → Run α} (hf : ∀ b, Blind (f b)) : Blind fun c => f (view c) c := by
  intro c past
  show f (view (c.after past)) (c.after past) = (f (view c) c).map _
  rw [hview]
  exact hf (view c) c past

theorem Blind.unlessCancelled {body : Run (Outcome α)} (hbody : Blind body) :
    Blind (unlessCancelled body) := by
  intro c past
  have htick : (c.after past).tick = c.tick.after past := Context.tick_blind c past
  rw [unlessCancelled_apply, unlessCancelled_apply, htick]
  show (if c.tick.cancelled then some (.error (.fault .cancelled), c.tick.after past)
    else body (c.tick.after past)) = _
  split
  · rfl
  · exact hbody c.tick past

theorem Blind.inScope {body : Run α} (hbody : Blind body) : Blind (inScope body) := by
  intro c past
  show (body (c.openScope.after past)).bind (fun p => some (p.1, p.2.closeTo c.depth)) =
    ((body c.openScope).bind fun p => some (p.1, p.2.closeTo c.depth)).map _
  rw [hbody]
  cases body c.openScope with
  | none => rfl
  | some p =>
      have hclose : (p.2.after past).closeTo c.depth = (p.2.closeTo c.depth).after past :=
        Context.closeTo_blind c.depth p.2 past
      show some (p.1, (p.2.after past).closeTo c.depth) = _
      rw [hclose]
      rfl

theorem Blind.inFrame (frame : Frame) {body : Run α} (hbody : Blind body) :
    Blind (inFrame frame body) := by
  have hpush : Context.Blind fun c => c.pushFrame frame := fun _ _ => rfl
  have hpop : Context.Blind Context.popFrame := fun _ _ => rfl
  exact .bind (.modify hpush) fun _ => .bind hbody fun a => .bind (.modify hpop) fun _ => .pure a

theorem Blind.rounds {round : σ → Run (σ ⊕ β)} (hround : ∀ s, Blind (round s)) :
    ∀ (limit : Nat) (s : σ), Blind (rounds round limit s) := by
  intro limit
  induction limit with
  | zero =>
      intro s
      exact .exhausted
  | succ limit ih =>
      intro s
      refine .bind (hround s) fun r => ?_
      cases r with
      | inl s => exact ih s
      | inr b => exact .pure b

end Run

/-! ## §3. The engine -/

namespace Engine

section Sequences

variable {caller : Caller} (hmoves : ∀ id input site, Run.Evolving (caller id input site))
  (hcaller : ∀ id input site, Run.Blind (caller id input site))

include hcaller in
/-- A step up to the end of its call, without the note that it starts. -/
theorem inStep_blind (vars : State) (step : Step) (state : State) :
    Run.Blind (do
      modify fun c => c.recordAll ((step.inputs.skippedInput ⟨state, vars⟩).map .spreadSkipped)
      Run.inFrame ⟨step.slotMap, state, vars⟩ (Run.inScope (caller step.call
        (step.inputs.input ⟨state, vars⟩) ⟨step.slotMap, vars, step.collectPath⟩))) :=
  .bind (.modify (Context.recordAll_blind _)) fun _ => .inFrame _ (.inScope (hcaller _ _ _))

theorem mergeStep_blind (step : Step) (state : State) (result : Outcome Value) :
    Run.Blind (mergeStep step state result) := by
  cases result with
  | error i => exact .pure _
  | ok v => exact .bind (.modify (Context.recordAll_blind _)) fun _ => .pure _

include hmoves hcaller

theorem runSteps_blind (steps : List Step) (state vars : State) :
    Run.Blind (runSteps caller steps state vars) := by
  unfold runSteps
  rw [runStepsFrom_eq_keepStepsFrom hmoves]
  generalize 0 = index
  induction steps generalizing index state with
  | nil => exact .pure _
  | cons step rest ih =>
      have hcall : Run.Blind (callStep caller vars index step state) :=
        .unlessCancelled (.bind (.record _) fun _ => inStep_blind hcaller vars step state)
      have hstep : Run.Blind (keepStep caller vars index step state) :=
        .bind hcall fun result => mergeStep_blind step state result
      refine .bind hstep fun r => ?_
      cases r with
      | ok next => exact ih next (index + 1)
      | error i => exact .pure _

theorem runChildren_blind (steps : List Step) (state vars : Option State) :
    Run.Blind (runChildren caller steps state vars) := by
  refine .unlessCancelled fun c past => ?_
  have hframes : (c.after past).frames = c.frames := rfl
  simp only [Run.get_bind_apply, hframes]
  cases c.frames with
  | nil => exact Run.Blind.pure _ c past
  | cons frame rest => exact Run.Blind.inScope (runSteps_blind hmoves hcaller _ _ _) c past

theorem runSlot_blind (name : String) (state vars : Option State) :
    Run.Blind (runSlot caller name state vars) := by
  refine .unlessCancelled fun c past => ?_
  have hframes : (c.after past).frames = c.frames := rfl
  simp only [Run.get_bind_apply, hframes]
  cases c.frames with
  | nil => exact Run.Blind.pure _ c past
  | cons frame rest =>
      have hslot : Run.Blind (do
          Run.record (.slotStarted name ((SlotMap.resolve frame.slots name).getD []).length)
          Run.inScope (runSteps caller ((SlotMap.resolve frame.slots name).getD [])
            (state.getD frame.state) (vars.getD frame.vars))) :=
        .bind (.record _) fun _ => .inScope (runSteps_blind hmoves hcaller _ _ _)
      exact hslot c past

end Sequences

section Calls

variable {registry : Registry} {invoker : Invoker}
  (hmoves : ∀ entry input site, Run.Evolving (invoker entry input site))
  (hinvoker : ∀ entry input site, Run.Blind (invoker entry input site))

include hinvoker

theorem invoke_blind (id : String) (input : State) (site : CallSite) :
    Run.Blind (invoke registry invoker id input site) := by
  unfold invoke
  cases registry.resolve id with
  | error e => exact .pure _
  | ok found =>
      dsimp only
      cases found.contract with
      | none => exact hinvoker _ _ _
      | some contract => exact .bind (.record _) fun _ => hinvoker _ _ _

theorem call_blind (id : String) (input : State) (site : CallSite) :
    Run.Blind (call registry invoker id input site) := by
  refine .unlessCancelled (invoke_blind (fun entry input site => ?_) id input site)
  exact .bind (.record _) fun _ => hinvoker entry input site

include hmoves

theorem answer_blind : ∀ (r : Request), Run.Blind (answer registry invoker r)
  | .call id input site => call_blind hinvoker id input site
  | .invoke id input site => invoke_blind hinvoker id input site
  | .runSlot name state vars =>
      runSlot_blind (call_evolves hmoves) (call_blind hinvoker) name state vars
  | .runChildren steps state vars =>
      runChildren_blind (call_evolves hmoves) (call_blind hinvoker) steps state vars
  | .runSteps steps state vars =>
      runSteps_blind (call_evolves hmoves) (call_blind hinvoker) steps state vars
  | .openScope => .modify Context.openScope_blind
  | .closeScope => .modify Context.closeScope_blind
  | .depth => .look Context.depth (fun _ _ => rfl) fun depth => .pure depth
  | .defer result stops => .modify (Context.defer_blind ⟨result, stops⟩)
  | .cancel => .modify Context.cancel_blind
  | .isCancelled => .look Context.cancelled (fun _ _ => rfl) fun flag => .pure flag
  | .awaitCancel => by
      intro c past
      show ((c.after past).awaitCancel.map fun c => ((), c)) = _
      rw [Context.awaitCancel_after, Option.map_map]
      show _ = (c.awaitCancel.map fun c => ((), c)).map _
      rw [Option.map_map]
      rfl
  | .logLevel => .look Context.logLevel (fun _ _ => rfl) fun level => .pure level
  | .isRegistered id => .pure _
  | .note n => .record _

end Calls

theorem perform_blind_of_answer {α : Type} {answer : (r : Request) → Run r.Reply}
    (hanswer : ∀ r, Run.Blind (answer r)) (limit : Nat) (p : Program α) :
    Run.Blind (perform answer limit p) := by
  induction p with
  | done a => exact .pure a
  | ask r next ih => exact .bind (hanswer r) ih
  | inScope body next ihbody ih => exact .bind (.inScope ihbody) ih
  | rounds round first next ihround ih => exact .bind (.rounds ihround limit first) ih

theorem enter_blind (registry : Registry) :
    ∀ (limit : Nat) (entry : Entry) (input : State) (site : CallSite),
      Run.Blind (enter registry limit entry input site) := by
  -- what a function calls has a limit that is less by one
  intro limit
  induction limit with
  | zero =>
      intro entry input site
      exact .exhausted
  | succ limit ih =>
      intro entry input site
      have hanswer : ∀ r, Run.Blind (answer registry (enter registry limit) r) :=
        answer_blind (enter_evolves registry limit) ih
      exact .bind (perform_blind_of_answer hanswer limit _) fun _ => .pure _

/-- **No call looks at the journal.** -/
theorem callWithin_blind (registry : Registry) (limit : Nat) (id : String) (input : State)
    (site : CallSite) : Run.Blind (callWithin registry limit id input site) :=
  call_blind (enter_blind registry limit) id input site

end Engine

end StepFlow
