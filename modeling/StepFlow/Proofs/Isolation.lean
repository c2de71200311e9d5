import StepFlow.Proofs.Evolution
import StepFlow.Proofs.Passing

/-
  StepFlow.Proofs.Isolation
  ─────────────────────────
  Steps do not reach into each other.

  While a step's function runs, the step's state lies in a frame, and the
  function may run any number of nested sequences, in any nesting, that succeed,
  fail, signal or are cancelled.  `runWithin_isolated`: afterwards the frames are
  what they were; the state is the one the step started from, with the step's own
  outputs merged into it; and the fault of a lost frame is never raised.

  An interrupt that neither the engine nor a function raises of itself never
  comes out of a run.  The fault of a lost frame is one, as long as functions do
  not make it up, and the standard functions do not.
-/

namespace StepFlow

/-! ## §1. What runs end with -/

namespace Run

variable {α β σ : Type}

/-- A computation all of whose results satisfy `post`. -/
def Gives (m : Run α) (post : α → Prop) : Prop :=
  ∀ (c : Context) (a : α) (d : Context), m c = some (a, d) → post a

theorem Gives.pure {post : α → Prop} {a : α} (ha : post a) : Gives (pure a) post := by
  intro c b d h
  obtain ⟨rfl, -⟩ := pure_eq_some.mp h
  exact ha

theorem Gives.bind {m : Run α} {f : α → Run β} {mid : α → Prop} {post : β → Prop}
    (hm : Gives m mid) (hf : ∀ a, mid a → Gives (f a) post) : Gives (m >>= f) post := by
  intro c b d h
  obtain ⟨a, e, h₁, h₂⟩ := bind_eq_some.mp h
  exact hf a (hm c a e h₁) e b d h₂

/-- A first part whose result does not matter. -/
theorem Gives.seq {m : Run α} {f : α → Run β} {post : β → Prop}
    (hf : ∀ a, Gives (f a) post) : Gives (m >>= f) post := by
  have hm : Gives m fun _ => True := fun _ _ _ _ => trivial
  exact .bind hm fun a _ => hf a

theorem Gives.inScope {body : Run α} {post : α → Prop} (hbody : Gives body post) :
    Gives (inScope body) post := by
  intro c a d h
  obtain ⟨e, he, -⟩ := inScope_eq_some.mp h
  exact hbody _ a e he

theorem Gives.inFrame {frame : Frame} {body : Run α} {post : α → Prop}
    (hbody : Gives body post) : Gives (inFrame frame body) post := by
  intro c a d h
  obtain ⟨e, he, -⟩ := inFrame_eq_some.mp h
  exact hbody _ a e he

theorem Gives.unlessCancelled {body : Run (Outcome α)} {post : Outcome α → Prop}
    (hcancelled : post (.error (.fault .cancelled))) (hbody : Gives body post) :
    Gives (unlessCancelled body) post := by
  intro c a d h
  rw [unlessCancelled_apply] at h
  split at h
  · cases h
    exact hcancelled
  · exact hbody _ a d h

theorem Gives.rounds {round : σ → Run (σ ⊕ β)} {inv : σ → Prop} {post : β → Prop}
    (hround : ∀ s, inv s → Gives (round s) (Sum.elim inv post)) :
    ∀ (limit : Nat) (s : σ), inv s → Gives (rounds round limit s) post := by
  intro limit
  induction limit with
  | zero => intro s _ c b d h; cases h
  | succ limit ih =>
      intro s hs
      refine .bind (hround s hs) fun r hr => ?_
      cases r with
      | inl s => exact ih s hr
      | inr b => exact .pure hr

end Run

namespace Engine

/-- Good answers lead to the results that a program yields. -/
theorem perform_gives {α : Type} {answer : (r : Request) → Run r.Reply}
    {good : (r : Request) → r.Reply → Prop} (hanswer : ∀ r, Run.Gives (answer r) (good r))
    (limit : Nat) (p : Program α) :
    ∀ {post : α → Prop}, p.Yields good post → Run.Gives (perform answer limit p) post := by
  induction p with
  | done a => intro post h; exact .pure h
  | ask r next ih =>
      intro post h
      exact .bind (hanswer r) fun x hx => ih x (h x hx)
  | inScope body next ihbody ih =>
      intro post h
      obtain ⟨mid, hbody, hnext⟩ := h
      exact .bind (.inScope (ihbody hbody)) fun b hb => ih b (hnext b hb)
  | rounds round first next ihround ih =>
      intro post h
      obtain ⟨inv, mid, hfirst, hround, hnext⟩ := h
      -- the invariant holds before each round, and the last round gives `mid`
      have hloop : Run.Gives (Run.rounds (fun s => perform answer limit (round s)) limit first)
          mid :=
        .rounds (fun s hs => ihround s (hround s hs)) limit first hfirst
      exact .bind hloop fun b hb => ih b (hnext b hb)

/-! ## §2. Where interrupts come from -/

/-- The interrupts that the engine raises of itself. -/
inductive Raises : Interrupt → Prop where
  /-- Before a part starts, once the run was cancelled. -/
  | cancelled : Raises (.fault .cancelled)
  /-- For a call that nothing answers. -/
  | notRegistered (id : String) : Raises (.fault (.functionNotRegistered id))
  /-- For a slot outside of a step. -/
  | noSlot : Raises (.fault (.runnerUnavailable "run_slot"))
  /-- For children outside of a step. -/
  | noChildren : Raises (.fault (.runnerUnavailable "run_children"))

/-- The fault of a step whose frame is gone when its call returns. -/
def lostFrame : Interrupt := .noRunner "run_steps"

end Engine

/-- A function that was found is a registered one. -/
theorem Registry.get?_of_resolve {registry : Registry} {id : String} {found : Resolution}
    (h : registry.resolve id = .ok found) : ∃ id', registry.get? id' = some found.entry := by
  unfold resolve at h
  split at h
  · next entry hentry =>
      cases h
      exact ⟨id, hentry⟩
  · split at h
    · split at h
      · next entry hentry =>
          cases h
          obtain ⟨id', -, hid'⟩ := Option.bind_eq_some_iff.mp hentry
          exact ⟨id', hid'⟩
      · cases h
    · cases h

theorem Registry.resolve_eq_error {registry : Registry} {id : String} {e : Fault}
    (h : registry.resolve id = .error e) : e = .functionNotRegistered id := by
  unfold resolve at h
  split at h
  · cases h
  · split at h
    · split at h
      · cases h
      · cases h
        rfl
    · cases h
      rfl

namespace Engine

variable {i : Interrupt} {registry : Registry} {caller : Caller} {invoker : Invoker}

/-- What the engine raises is not an interrupt that it does not raise. -/
theorem Raises.ne {α : Type} {j : Interrupt} (hj : Raises j) (hi : ¬ Raises i) :
    (.error j : Outcome α) ≠ .error i := by
  rintro ⟨⟩
  exact hi hj

section Sequences

variable (hmoves : ∀ id input site, Run.Evolving (caller id input site)) (hi : ¬ Raises i)
  (hcaller : ∀ id input site, Run.Gives (caller id input site) (· ≠ .error i))

include hmoves hi hcaller

theorem runStep_spares (vars : State) (index : Nat) (step : Step) (state : State) :
    Run.Gives (runStep caller vars index step state) (· ≠ .error i) := by
  -- with the state kept aside, the case of a lost frame is not even there
  rw [runStep_eq_keepStep hmoves]
  have hcall : Run.Gives (callStep caller vars index step state) (· ≠ .error i) :=
    .unlessCancelled (Raises.cancelled.ne hi) (.seq fun _ => .seq fun _ =>
      .inFrame (.inScope (hcaller _ _ _)))
  refine .bind hcall fun result hresult => ?_
  cases result with
  | error j =>
      refine .pure ?_
      rintro ⟨⟩
      exact hresult rfl
  | ok v => exact .seq fun _ => .pure nofun

theorem runSteps_spares (steps : List Step) (state vars : State) :
    Run.Gives (runSteps caller steps state vars) (· ≠ .error i) := by
  unfold runSteps
  generalize 0 = index
  induction steps generalizing index state with
  | nil => exact .pure nofun
  | cons step rest ih =>
      refine .bind (runStep_spares hmoves hi hcaller vars index step state) fun r hr => ?_
      cases r with
      | ok state => exact ih state (index + 1)
      | error j => exact .pure hr

theorem runChildren_spares (steps : List Step) (state vars : Option State) :
    Run.Gives (runChildren caller steps state vars) (· ≠ .error i) := by
  refine .unlessCancelled (Raises.cancelled.ne hi) (.seq fun c => ?_)
  cases c.frames with
  | nil => exact .pure (Raises.noChildren.ne hi)
  | cons frame rest => exact .inScope (runSteps_spares hmoves hi hcaller _ _ _)

theorem runSlot_spares (name : String) (state vars : Option State) :
    Run.Gives (runSlot caller name state vars) (· ≠ .error i) := by
  refine .unlessCancelled (Raises.cancelled.ne hi) (.seq fun c => ?_)
  cases c.frames with
  | nil => exact .pure (Raises.noSlot.ne hi)
  | cons frame rest => exact .seq fun _ => .inScope (runSteps_spares hmoves hi hcaller _ _ _)

end Sequences

section Calls

variable (hi : ¬ Raises i)
  (hinvoker : ∀ id entry, registry.get? id = some entry → ∀ input site,
    Run.Gives (invoker entry input site) (· ≠ .error i))

include hi hinvoker

theorem invoke_spares (id : String) (input : State) (site : CallSite) :
    Run.Gives (invoke registry invoker id input site) (· ≠ .error i) := by
  unfold invoke
  cases hfound : registry.resolve id with
  | error e =>
      rw [Registry.resolve_eq_error hfound]
      exact .pure ((Raises.notRegistered id).ne hi)
  | ok found =>
      obtain ⟨id', hentry⟩ := Registry.get?_of_resolve hfound
      have hrun := hinvoker id' found.entry hentry input site
      dsimp only
      cases found.contract with
      | none => exact hrun
      | some contract => exact .seq fun _ => hrun

theorem call_spares (id : String) (input : State) (site : CallSite) :
    Run.Gives (call registry invoker id input site) (· ≠ .error i) := by
  refine .unlessCancelled (Raises.cancelled.ne hi) ?_
  refine invoke_spares hi (fun id' entry h input site => ?_) id input site
  exact .seq fun _ => hinvoker id' entry h input site

theorem answer_spares (hmoves : ∀ entry input site, Run.Evolving (invoker entry input site)) :
    ∀ (r : Request), Run.Gives (answer registry invoker r) (Request.Spares i r)
  | .call id input site => call_spares hi hinvoker id input site
  | .invoke id input site => invoke_spares hi hinvoker id input site
  | .runSlot name state vars =>
      runSlot_spares (call_evolves hmoves) hi (call_spares hi hinvoker) name state vars
  | .runChildren steps state vars =>
      runChildren_spares (call_evolves hmoves) hi (call_spares hi hinvoker) steps state vars
  | .runSteps steps state vars =>
      runSteps_spares (call_evolves hmoves) hi (call_spares hi hinvoker) steps state vars
  | .openScope | .closeScope | .depth | .defer .. | .cancel | .isCancelled | .awaitCancel
  | .logLevel | .isRegistered _ | .note _ => fun _ _ _ _ => trivial

end Calls

theorem enter_spares (hi : ¬ Raises i) (hregistry : registry.OnlyPasses i) :
    ∀ (limit : Nat) (id : String) (entry : Entry), registry.get? id = some entry →
      ∀ (input : State) (site : CallSite),
        Run.Gives (enter registry limit entry input site) (· ≠ .error i) := by
  -- on the limit: the functions that a function reaches are registered, too
  intro limit
  induction limit with
  | zero => intro id entry _ input site c a d h; cases h
  | succ limit ih =>
      intro id entry hentry input site
      have hanswer := answer_spares hi ih (enter_evolves registry limit)
      refine .bind (perform_gives hanswer limit _ (hregistry id entry hentry input site))
        fun result hresult => ?_
      cases result with
      | error j =>
          refine .pure ?_
          rintro ⟨⟩
          exact hresult rfl
      | ok v => exact .pure nofun

/-- An interrupt that neither the engine nor a function raises never comes out of a run. -/
theorem runWithin_spares (hi : ¬ Raises i) (hregistry : registry.OnlyPasses i) (limit : Nat)
    (steps : List Step) (state vars : State) :
    Run.Gives (runWithin registry limit steps state vars) (· ≠ .error i) :=
  runSteps_spares (callWithin_evolves registry limit) hi
    (call_spares hi (enter_spares hi hregistry limit)) steps state vars

theorem not_raises_lostFrame : ¬ Raises lostFrame := by
  have hne : ∀ i, Raises i → i ≠ lostFrame := by
    intro i hi
    cases hi <;> simp [lostFrame, Interrupt.noRunner]
  exact fun h => hne lostFrame h rfl

/-! ## §3. Isolation -/

/-- **Steps are isolated.**  A sequence over any registry runs as if every step kept its
state aside: the frame that a step takes its state back from is always its own.  When the
sequence has ended, however it ended, the frames are what they were.  A step whose call gives
a value merges it into the state the step started from.  The fault of a lost frame does not
come out of a run whose functions do not raise it themselves. -/
theorem runWithin_isolated (registry : Registry) (limit : Nat) (steps : List Step)
    (state vars : State) :
    runWithin registry limit steps state vars =
        keepStepsFrom (callWithin registry limit) vars 0 steps state ∧
      (∀ c r d, runWithin registry limit steps state vars c = some (r, d) →
        d.frames = c.frames ∧ (registry.OnlyPasses lostFrame → r ≠ .error lostFrame)) ∧
      ∀ index step before c v d,
        callStep (callWithin registry limit) vars index step before c = some (.ok v, d) →
        runStep (callWithin registry limit) vars index step before c =
          some (.ok (step.outputs.output v before),
            d.recordAll ((step.outputs.skippedOutput v).map .spreadSkipped)) := by
  have hcaller := callWithin_evolves registry limit
  refine ⟨runStepsFrom_eq_keepStepsFrom hcaller vars 0 steps state, ?_, ?_⟩
  · intro c r d h
    obtain ⟨es, hes⟩ := runWithin_evolves registry limit steps state vars c r d h
    refine ⟨hes.frames_eq, fun hregistry => ?_⟩
    exact runWithin_spares not_raises_lostFrame hregistry limit steps state vars c r d h
  · intro index step before c v d h
    rw [runStep_eq_keepStep hcaller]
    -- the rest of the step is the merge into `before`
    show Option.bind (callStep (callWithin registry limit) vars index step before c) _ = _
    rw [h]
    rfl

/-- A step that recovers from a failure of its children. -/
def recoverStep : Step :=
  ⟨Flow.tryId, .empty, .empty,
    [("catch", [⟨Builtin.setId, .empty, .empty, [], none, none⟩])],
    some [⟨Flow.throwId, .empty, .empty, [], none, none⟩], none⟩

/-- A context in which a step is running. -/
def insideStep : Context :=
  (Context.start .fatal false none).pushFrame ⟨[], [("seen", .bool true)], []⟩

/-- A failed nested run and one that recovers from it leave the frame of the step around
them as it was. -/
theorem recoverStep_isolated :
    ∃ r d, runWithin .standard 2 [recoverStep] [] [] insideStep = some (r, d) ∧
      d.frames = insideStep.frames ∧ r ≠ .error lostFrame := by
  have hends : ∃ r d, runWithin .standard 2 [recoverStep] [] [] insideStep = some (r, d) :=
    ⟨_, _, rfl⟩
  obtain ⟨r, d, hrun⟩ := hends
  obtain ⟨hframes, hlost⟩ :=
    (runWithin_isolated .standard 2 [recoverStep] [] []).2.1 insideStep r d hrun
  exact ⟨r, d, hrun, hframes, hlost (Registry.standard_onlyPasses _)⟩

end Engine

end StepFlow
