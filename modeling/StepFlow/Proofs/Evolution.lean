import StepFlow.Proofs.Moves

/-
  StepFlow.Proofs.Evolution
  ─────────────────────────
  Every run makes moves only.

  A step puts its state into a frame and takes it back from the top frame after
  its call.  Since calls leave the frames alone, that is the same as keeping the
  state aside (`runStep_eq_keepStep`), and the case of a lost frame never comes.

  `perform_evolves` and `runWithin_evolves`: whatever a program asks for, and
  whatever the functions of a registry do, the context changes by moves only.
  The induction is on the limit, and inside of it on the program.
-/

namespace StepFlow

/-! ## §1. Steps whose state is kept aside -/

namespace Engine

variable {α : Type} {caller : Caller}

/-- Call a step's function in a scope and a frame of its own. -/
def callStep (caller : Caller) (vars : State) (index : Nat) (step : Step) (state : State) :
    Run (Outcome Value) :=
  Run.unlessCancelled do
    let roots : Roots := ⟨state, vars⟩
    Run.record (.stepStarted index step.call)
    modify fun c => c.recordAll ((step.inputs.skippedInput roots).map .spreadSkipped)
    Run.inFrame ⟨step.slotMap, state, vars⟩ (Run.inScope
      (caller step.call (step.inputs.input roots) ⟨step.slotMap, vars, step.collectPath⟩))

/-- Merge the result of a step's function into the state that the step started from. -/
def mergeStep (step : Step) (state : State) : Outcome Value → Run (Outcome State)
  | .error i => return .error i
  | .ok v => do
      modify fun c => c.recordAll ((step.outputs.skippedOutput v).map .spreadSkipped)
      return .ok (step.outputs.output v state)

/-- Merging is never refused: a result changes the state by the step's own outputs only. -/
theorem exists_mergeStep (step : Step) (state : State) (x : Outcome Value) (c : Context) :
    ∃ d, mergeStep step state x c =
        some (x.map fun v => step.outputs.output v state, d) ∧ d.frames = c.frames := by
  cases x with
  | error i => exact ⟨c, rfl, rfl⟩
  | ok v =>
      refine ⟨_, rfl, ?_⟩
      show (Context.recordAll c _).frames = c.frames
      rw [Context.recordAll_eq]

/-- Run one step, with its state kept aside while its function runs instead of being taken
back from the frame. -/
def keepStep (caller : Caller) (vars : State) (index : Nat) (step : Step) (state : State) :
    Run (Outcome State) := do
  mergeStep step state (← callStep caller vars index step state)

/-- Run steps one after the other, the state of each kept aside while its function runs. -/
def keepStepsFrom (caller : Caller) (vars : State) :
    Nat → List Step → State → Run (Outcome State)
  | _, [], state => return .ok state
  | index, step :: rest, state => do
      match ← keepStep caller vars index step state with
      | .ok state => keepStepsFrom caller vars (index + 1) rest state
      | .error i => return .error i

/-- A part that runs in a frame and changes the context by moves only finds that frame on
top when it comes back, and in it the state that was put there. -/
theorem takeBack_eq_inFrame {body : Run α} (hbody : Run.Evolving body) (frame : Frame)
    (lost : Run (Outcome State)) (next : α → State → Run (Outcome State)) :
    (do modify fun c => c.pushFrame frame
        let a ← body
        match (← get).frames with
        | [] => lost
        | top :: _ =>
            modify Context.popFrame
            next a top.state) =
      (do let a ← Run.inFrame frame body
          next a frame.state) := by
  funext c
  show Option.bind (body (c.pushFrame frame)) _ =
    Option.bind (Option.bind (body (c.pushFrame frame)) _) _
  cases h : body (c.pushFrame frame) with
  | none => rfl
  | some p =>
      obtain ⟨a, d⟩ := p
      obtain ⟨es, hes⟩ := hbody _ _ _ h
      -- moves leave the frames as they were, so the one on top is still this one
      have hframes : d.frames = frame :: c.frames := hes.frames_eq
      show (match d.frames with
        | [] => lost
        | top :: _ => do
            modify Context.popFrame
            next a top.state) d = next a frame.state d.popFrame
      rw [hframes]
      rfl

theorem runStep_eq_keepStep (hcaller : ∀ id input site, Run.Evolving (caller id input site))
    (vars : State) (index : Nat) (step : Step) (state : State) :
    runStep caller vars index step state = keepStep caller vars index step state := by
  have hscope : Run.Evolving (Run.inScope (caller step.call (step.inputs.input ⟨state, vars⟩)
      ⟨step.slotMap, vars, step.collectPath⟩)) :=
    .inScope (hcaller _ _ _)
  funext c
  show Run.unlessCancelled _ c =
    Option.bind (callStep caller vars index step state c) fun p => mergeStep step state p.1 p.2
  rw [callStep, Run.unlessCancelled_apply, Run.unlessCancelled_apply]
  split
  · rfl
  · -- what both record first is the same, so they differ in the frame only
    exact congrFun (takeBack_eq_inFrame hscope ⟨step.slotMap, state, vars⟩ _ fun result state =>
      mergeStep step state result) _

theorem runStepsFrom_eq_keepStepsFrom
    (hcaller : ∀ id input site, Run.Evolving (caller id input site)) (vars : State) :
    ∀ (index : Nat) (steps : List Step) (state : State),
      runStepsFrom caller vars index steps state = keepStepsFrom caller vars index steps state := by
  intro index steps
  induction steps generalizing index with
  | nil => intro state; rfl
  | cons step rest ih =>
      intro state
      unfold runStepsFrom keepStepsFrom
      rw [runStep_eq_keepStep hcaller]
      congr 1
      funext r
      cases r with
      | ok state => exact ih (index + 1) state
      | error i => rfl

/-! ## §2. The engine makes moves only -/

theorem isReport_of_mem_spreadSkipped {sources : List Value} :
    ∀ e ∈ sources.map Event.spreadSkipped, e.isReport := by
  intro e he
  obtain ⟨v, -, rfl⟩ := List.mem_map.mp he
  rfl

theorem skipped_evolves (sources : List Value) :
    Run.Evolving (modify fun c => c.recordAll (sources.map .spreadSkipped)) :=
  .modify fun c => ⟨_, Context.recordAll_evolves _ isReport_of_mem_spreadSkipped c⟩

theorem mergeStep_evolves (step : Step) (state : State) (result : Outcome Value) :
    Run.Evolving (mergeStep step state result) := by
  cases result with
  | error i => exact .pure _
  | ok v => exact .bind (skipped_evolves _) fun _ => .pure _

section Sequences

variable (hcaller : ∀ id input site, Run.Evolving (caller id input site))

include hcaller

theorem runStep_evolves (vars : State) (index : Nat) (step : Step) (state : State) :
    Run.Evolving (runStep caller vars index step state) := by
  rw [runStep_eq_keepStep hcaller]
  have hcall : Run.Evolving (callStep caller vars index step state) :=
    .unlessCancelled (.start rfl (.bind (skipped_evolves _) fun _ =>
      .inFrame _ (.inScope (hcaller _ _ _))))
  exact .bind hcall fun result => mergeStep_evolves step state result

theorem runStepsFrom_evolves (vars : State) (index : Nat) (steps : List Step) (state : State) :
    Run.Evolving (runStepsFrom caller vars index steps state) := by
  -- every step has its own index and its own state to start from
  induction steps generalizing index state with
  | nil => exact .pure _
  | cons step rest ih =>
      refine .bind (runStep_evolves hcaller vars index step state) fun r => ?_
      cases r with
      | ok state => exact ih (index + 1) state
      | error i => exact .pure _

theorem runSteps_evolves (steps : List Step) (state vars : State) :
    Run.Evolving (runSteps caller steps state vars) :=
  runStepsFrom_evolves hcaller vars 0 steps state

theorem runChildren_evolves (steps : List Step) (state vars : Option State) :
    Run.Evolving (runChildren caller steps state vars) := by
  refine .unlessCancelled (Run.Evolving.active (.bind .get fun c => ?_))
  cases c.frames with
  | nil => exact .pure _
  | cons frame rest => exact .inScope (runSteps_evolves hcaller _ _ _)

theorem runSlot_evolves (name : String) (state vars : Option State) :
    Run.Evolving (runSlot caller name state vars) := by
  refine .unlessCancelled fun c r d hc h => ?_
  -- the slot starts only where a frame is, so the context is looked at first
  obtain ⟨_, _, hget, h⟩ := Run.bind_eq_some.mp h
  obtain ⟨rfl, rfl⟩ := Run.get_eq_some.mp hget
  cases hframes : c.frames with
  | nil =>
      rw [hframes] at h
      exact Run.Evolving.pure _ c r d h
  | cons frame rest =>
      rw [hframes] at h
      exact Run.EvolvingActive.start rfl (.inScope (runSteps_evolves hcaller _ _ _)) c r d hc h

end Sequences

section Calls

variable {registry : Registry} {invoker : Invoker}
  (hinvoker : ∀ entry input site, Run.Evolving (invoker entry input site))

include hinvoker

theorem invoke_evolves (id : String) (input : State) (site : CallSite) :
    Run.Evolving (invoke registry invoker id input site) := by
  unfold invoke
  cases registry.resolve id with
  | error e => exact .pure _
  | ok found =>
      dsimp only
      cases found.contract with
      | none => exact hinvoker _ _ _
      | some contract => exact .bind (.record rfl) fun _ => hinvoker _ _ _

theorem call_evolves (id : String) (input : State) (site : CallSite) :
    Run.Evolving (call registry invoker id input site) := by
  refine .unlessCancelled ?_
  unfold invoke
  cases registry.resolve id with
  | error e => exact Run.Evolving.active (.pure _)
  | ok found =>
      -- a contract is reported first, but the guard still holds when the function starts
      have hentered : Run.EvolvingActive (do
          Run.record (.entered found.entry.id)
          invoker found.entry input site) :=
        .start rfl (hinvoker _ _ _)
      dsimp only
      cases found.contract with
      | none => exact hentered
      | some contract => exact .report rfl hentered

theorem answer_evolves : ∀ (r : Request), Run.Evolving (answer registry invoker r)
  | .call id input site => call_evolves hinvoker id input site
  | .invoke id input site => invoke_evolves hinvoker id input site
  | .runSlot name state vars => runSlot_evolves (call_evolves hinvoker) name state vars
  | .runChildren steps state vars => runChildren_evolves (call_evolves hinvoker) steps state vars
  | .runSteps steps state vars => runSteps_evolves (call_evolves hinvoker) steps state vars
  | .openScope => .modify fun c => ⟨_, .openScope c⟩
  | .closeScope => .modify Context.closeScope_evolves
  | .depth => .bind .get fun _ => .pure _
  | .defer result stops => .modify fun c => ⟨_, .defer c ⟨result, stops⟩⟩
  | .cancel => .modify fun c => ⟨_, .cancel c⟩
  | .isCancelled => .bind .get fun _ => .pure _
  | .awaitCancel => by
      intro c u d h
      obtain ⟨e, he, hd⟩ := Option.map_eq_some_iff.mp h
      cases hd
      exact Context.awaitCancel_evolves he
  | .logLevel => .bind .get fun _ => .pure _
  | .isRegistered id => .pure _
  | .note n => .record rfl

end Calls

theorem perform_evolves_of_answer {answer : (r : Request) → Run r.Reply}
    (hanswer : ∀ r, Run.Evolving (answer r)) (limit : Nat) (p : Program α) :
    Run.Evolving (perform answer limit p) := by
  induction p with
  | done a => exact .pure a
  | ask r next ih => exact .bind (hanswer r) ih
  | inScope body next ihbody ih => exact .bind (.inScope ihbody) ih
  | rounds round first next ihround ih =>
      exact .bind (.rounds ihround limit first) ih

theorem enter_evolves (registry : Registry) :
    ∀ (limit : Nat) (entry : Entry) (input : State) (site : CallSite),
      Run.Evolving (enter registry limit entry input site) := by
  -- what a function calls has a limit that is less by one
  intro limit
  induction limit with
  | zero => intro entry input site; exact .exhausted
  | succ limit ih =>
      intro entry input site
      exact .bind (perform_evolves_of_answer (answer_evolves ih) limit _) fun _ => .pure _

/-- **Every program makes moves only**, whatever it asks for and whatever is registered. -/
theorem perform_evolves (registry : Registry) (limit : Nat) (p : Program α) :
    Run.Evolving (perform (answer registry (enter registry limit)) limit p) :=
  perform_evolves_of_answer (answer_evolves (enter_evolves registry limit)) limit p

theorem callWithin_evolves (registry : Registry) (limit : Nat) (id : String) (input : State)
    (site : CallSite) : Run.Evolving (callWithin registry limit id input site) :=
  call_evolves (enter_evolves registry limit) id input site

/-- **Every sequence makes moves only.** -/
theorem runWithin_evolves (registry : Registry) (limit : Nat) (steps : List Step)
    (state vars : State) : Run.Evolving (runWithin registry limit steps state vars) :=
  runSteps_evolves (callWithin_evolves registry limit) steps state vars

end Engine

end StepFlow
