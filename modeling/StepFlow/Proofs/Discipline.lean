import StepFlow.Proofs.Evolution
import StepFlow.Proofs.Standard
import StepFlow.Session

/-
  StepFlow.Proofs.Discipline
  ──────────────────────────
  Static conditions on steps, and what they say about runs.

  A discipline is a condition on the steps of a document that the steps in their
  slots inherit.  It may ask for registered calls, for signals inside of loops,
  for limits.  `Discipline.runWithin_ensures`: over the standard registry, steps
  that keep to a discipline keep to its terms when they run.  The induction is on
  the limit of the run, which is less by one for what runs inside of a step.
-/

namespace StepFlow

/-! ## §1. The sequences nested in a step -/

/-- Whether a name is one of the two of the default slot. -/
def isDefaultSlot (name : String) : Bool :=
  name == childrenSlot || name == bodySlot

/-- Two names for one slot. -/
def SameSlot (a b : String) : Prop :=
  a = b ∨ isDefaultSlot a = true ∧ isDefaultSlot b = true

namespace Step

/-- The sequences nested in a step, with the slots they are given for. -/
def sequences (s : Step) : List (String × List Step) :=
  (match s.children with
    | some steps => [(childrenSlot, steps)]
    | none => []) ++ s.slots

theorem mem_sequences_of_slotMap {s : Step} {name : String} {steps : List Step}
    (h : (name, steps) ∈ s.slotMap) :
    ∃ given, (given, steps) ∈ s.sequences ∧ SameSlot given name := by
  have hown : ∀ {entry}, entry ∈ Dict.insertAll (match s.children with
      | some steps => [(childrenSlot, steps)]
      | none => []) s.slots → entry ∈ s.sequences := by
    intro entry hentry
    exact List.mem_append.mpr (Dict.mem_insertAll hentry)
  unfold slotMap at h
  dsimp only at h
  generalize Dict.insertAll _ s.slots = own at h hown
  split at h
  · exact ⟨name, hown h, .inl rfl⟩
  · split at h
    · next body hbody =>
        -- a body that doubles as the children
        rcases Dict.mem_insert h with heq | hmem
        · cases heq
          exact ⟨bodySlot, hown (Dict.mem_of_get? hbody), .inr ⟨rfl, rfl⟩⟩
        · exact ⟨name, hown hmem, .inl rfl⟩
    · exact ⟨name, hown h, .inl rfl⟩

/-- What runs under the name of a slot was given for that slot. -/
theorem mem_sequences_of_resolve {s : Step} {name : String} {steps : List Step}
    (h : SlotMap.resolve s.slotMap name = some steps) :
    ∃ given, (given, steps) ∈ s.sequences ∧ SameSlot given name := by
  have hother : ∀ {other}, isDefaultSlot other = true → isDefaultSlot name = true →
      Dict.get? s.slotMap other = some steps →
      ∃ given, (given, steps) ∈ s.sequences ∧ SameSlot given name := by
    intro other hother hname hget
    obtain ⟨given, hmem, hgiven⟩ := mem_sequences_of_slotMap (Dict.mem_of_get? hget)
    refine ⟨given, hmem, .inr ⟨?_, hname⟩⟩
    rcases hgiven with rfl | ⟨hdefault, -⟩
    · exact hother
    · exact hdefault
  unfold SlotMap.resolve at h
  split at h
  · next hget =>
      cases h
      exact mem_sequences_of_slotMap (Dict.mem_of_get? hget)
  · split at h
    · next hname =>
        subst hname
        exact hother rfl rfl h
    · split at h
      · next hname =>
          subst hname
          exact hother rfl rfl h
      · cases h

end Step

theorem takesSignals_eq_of_sameSlot {id a b : String} (h : SameSlot a b) :
    takesSignals id a = takesSignals id b := by
  -- the default slot is neither a condition nor an `else`
  have hdefault : ∀ {name}, isDefaultSlot name = true →
      takesSignals id name = (id == Flow.foreachId || id == Flow.whileId) := by
    intro name hname
    have hnames : name = childrenSlot ∨ name = bodySlot := by
      simpa [isDefaultSlot] using hname
    rcases hnames with rfl | rfl <;> simp [takesSignals, childrenSlot, bodySlot]
  rcases h with rfl | ⟨ha, hb⟩
  · rfl
  · rw [hdefault ha, hdefault hb]

/-! ## §2. Checks at every depth -/

mutual
/-- Whether a check holds of a step and of all steps nested in it.  The check is told whether
a loop around the step takes its signals. -/
def Step.everywhere (check : Bool → Step → Bool) (inLoop : Bool) : Step → Bool
  | ⟨call, inputs, outputs, slots, children, collectPath⟩ =>
      check inLoop ⟨call, inputs, outputs, slots, children, collectPath⟩ &&
        (Step.everywhereChildren check (inLoop || takesSignals call childrenSlot) children &&
          Step.everywhereSlots check inLoop call slots)
/-- The same for the default sequence of a step. -/
def Step.everywhereChildren (check : Bool → Step → Bool) (inLoop : Bool) :
    Option (List Step) → Bool
  | none => true
  | some steps => Step.everywhereIn check inLoop steps
/-- The same for the slots of a step that calls the function `call`. -/
def Step.everywhereSlots (check : Bool → Step → Bool) (inLoop : Bool) (call : String) :
    List (String × List Step) → Bool
  | [] => true
  | (name, steps) :: rest =>
      Step.everywhereIn check (inLoop || takesSignals call name) steps &&
        Step.everywhereSlots check inLoop call rest
/-- The same for the steps of a sequence. -/
def Step.everywhereIn (check : Bool → Step → Bool) (inLoop : Bool) : List Step → Bool
  | [] => true
  | step :: rest => Step.everywhere check inLoop step && Step.everywhereIn check inLoop rest
end

namespace Step

variable {check : Bool → Step → Bool} {inLoop : Bool}

theorem everywhereIn_iff {steps : List Step} :
    everywhereIn check inLoop steps = true ↔
      ∀ step ∈ steps, everywhere check inLoop step = true := by
  induction steps with
  | nil => simp [everywhereIn]
  | cons step rest ih => simp [everywhereIn, ih]

theorem everywhereSlots_iff {call : String} {slots : List (String × List Step)} :
    everywhereSlots check inLoop call slots = true ↔
      ∀ entry ∈ slots, everywhereIn check (inLoop || takesSignals call entry.1) entry.2 = true := by
  induction slots with
  | nil => simp [everywhereSlots]
  | cons entry rest ih =>
      obtain ⟨name, steps⟩ := entry
      simp [everywhereSlots, ih]

/-- A check holds everywhere in a step if it holds of the step and everywhere in the sequences
nested in it. -/
theorem everywhere_iff {s : Step} :
    everywhere check inLoop s = true ↔
      check inLoop s = true ∧ ∀ entry ∈ s.sequences, ∀ step ∈ entry.2,
        everywhere check (inLoop || takesSignals s.call entry.1) step = true := by
  obtain ⟨call, inputs, outputs, slots, children, collectPath⟩ := s
  cases children <;>
    simp only [everywhere, everywhereChildren, Bool.and_eq_true, everywhereSlots_iff,
      everywhereIn_iff, sequences, List.cons_append, List.nil_append, List.forall_mem_cons,
      true_and]

end Step

/-! ## §3. Disciplines -/

/-- A condition on steps under which runs over the standard registry keep to the terms.  The
number is the limit of the run; the flag tells whether a loop around the step takes its
signals. -/
structure Discipline (t : Terms) where
  admits : Nat → Bool → Step → Prop
  /-- What is called is registered, or else a fault to reckon with. -/
  registered : ∀ {limit inLoop step}, admits limit inLoop step →
    Registry.standard.get? step.call = none → t.faults (.functionNotRegistered step.call)
  /-- Signals are raised inside of loops. -/
  placed : ∀ {limit inLoop step}, admits limit inLoop step →
    raisesSignal step.call = true → inLoop = true
  /-- Steps nested in a step keep to the discipline with a limit that is less by one. -/
  inherited : ∀ {limit inLoop step}, admits (limit + 1) inLoop step →
    ∀ entry ∈ step.sequences, ∀ inner ∈ entry.2,
      admits limit (inLoop || takesSignals step.call entry.1) inner
  /-- Where runs have to end, the limit is enough for a step to start, -/
  starts : t.total → ∀ {inLoop step}, ¬ admits 0 inLoop step
  /-- and conditional loops have a limit of their own, which is below it. -/
  bounded : t.total → ∀ {limit inLoop step}, admits (limit + 1) inLoop step →
    step.call = Flow.whileId → ∀ (r : Roots) (max : Option Nat),
      Flow.roundLimit (Dict.get? (step.inputs.input r) "maxIterations") = .ok max →
      ∃ m, max = some m ∧ m < limit

namespace Engine

variable {t : Terms} {frames : List Frame} {signals : Bool} {caller : Caller}

theorem skipped_ensures (sources : List Value) :
    Run.Ensures t.total (t.faults .cancelled) frames
      (modify fun c => c.recordAll (sources.map .spreadSkipped)) fun _ => True :=
  .modify (fun _ hc => hc.recordAll _) fun c => by rw [Context.recordAll_eq]

/-- A step ensures what its call ensures. -/
theorem callStep_ensures {vars : State} {index : Nat} {step : Step} {state : State}
    (hcall : Run.Ensures t.total (t.faults .cancelled) (⟨step.slotMap, state, vars⟩ :: frames)
      (caller step.call (step.inputs.input ⟨state, vars⟩) ⟨step.slotMap, vars, step.collectPath⟩)
      (t.Permits signals fun _ => True)) :
    Run.Ensures t.total (t.faults .cancelled) frames (callStep caller vars index step state)
      (t.Permits signals fun _ => True) := by
  refine .unlessCancelled (fun h => h) (.bind (.record _) fun _ _ => ?_)
  exact .bind (skipped_ensures _) fun _ _ => .inFrame (.inScope hcall)

theorem runStep_ensures (hmoves : ∀ id input site, Run.Evolving (caller id input site))
    {vars : State} {index : Nat} {step : Step} {state : State}
    (hcall : Run.Ensures t.total (t.faults .cancelled) (⟨step.slotMap, state, vars⟩ :: frames)
      (caller step.call (step.inputs.input ⟨state, vars⟩) ⟨step.slotMap, vars, step.collectPath⟩)
      (t.Permits signals fun _ => True)) :
    Run.Ensures t.total (t.faults .cancelled) frames (runStep caller vars index step state)
      (t.Permits signals fun _ => True) := by
  rw [runStep_eq_keepStep hmoves]
  refine .bind (callStep_ensures hcall) fun result hresult => ?_
  cases result with
  | ok v => exact .bind (skipped_ensures _) fun _ _ => .pure trivial
  | error i => exact .pure hresult.error

/-- A sequence ensures what the calls of its steps ensure. -/
theorem runSteps_ensures (hmoves : ∀ id input site, Run.Evolving (caller id input site))
    {vars : State} {steps : List Step}
    (hcall : ∀ step ∈ steps, ∀ state, Run.Ensures t.total (t.faults .cancelled)
      (⟨step.slotMap, state, vars⟩ :: frames)
      (caller step.call (step.inputs.input ⟨state, vars⟩) ⟨step.slotMap, vars, step.collectPath⟩)
      (t.Permits signals fun _ => True)) (state : State) :
    Run.Ensures t.total (t.faults .cancelled) frames (runSteps caller steps state vars)
      (t.Permits signals fun _ => True) := by
  unfold runSteps
  generalize 0 = index
  induction steps generalizing index state with
  | nil => exact .pure trivial
  | cons step rest ih =>
      have hstep := hcall step List.mem_cons_self state
      refine .bind (runStep_ensures hmoves hstep) fun r hr => ?_
      cases r with
      | ok next =>
          exact ih (fun other hother => hcall other (List.mem_cons_of_mem step hother)) next _
      | error i => exact .pure hr

/-- A slot ensures what its sequence ensures. -/
theorem runSlot_ensures {frame : Frame} {name : String}
    (hsteps : ∀ state vars, Run.Ensures t.total (t.faults .cancelled) (frame :: frames)
      (runSteps caller ((SlotMap.resolve frame.slots name).getD []) state vars)
      (t.Permits signals fun _ => True)) (state vars : Option State) :
    Run.Ensures t.total (t.faults .cancelled) (frame :: frames) (runSlot caller name state vars)
      (t.Permits signals fun _ => True) := by
  refine .unlessCancelled (fun h => h) (.bind .get fun c hc => ?_)
  rw [hc.frames]
  exact .bind (.record _) fun _ _ => .inScope (hsteps _ _)

/-- The engine keeps the promises on which the standard functions count. -/
theorem answer_ensures {registry : Registry} {invoker : Invoker} {frame : Frame}
    {slots : String → Bool}
    (hslots : ∀ name state vars, Run.Ensures t.total (t.faults .cancelled) (frame :: frames)
      (runSteps (call registry invoker) ((SlotMap.resolve frame.slots name).getD []) state vars)
      (t.Permits (slots name) fun _ => True)) :
    ∀ (r : Request), (t.service slots).allows r →
      Run.Ensures t.total (t.faults .cancelled) (frame :: frames) (answer registry invoker r)
        ((t.service slots).promises r)
  | .runSlot name state vars, _ => runSlot_ensures (hslots name) state vars
  | .isCancelled, _ => .bind .get fun _ hc => .pure hc.cancelled
  | .logLevel, _ => .bind .get fun _ _ => .pure trivial
  | .note _, _ => .record _

/-- A call over a registry without bindings ensures what the function it enters ensures. -/
theorem call_ensures {registry : Registry} (hbindings : registry.bindings = [])
    {invoker : Invoker} {id : String} {input : State} {site : CallSite}
    (hmissing : registry.get? id = none → t.faults (.functionNotRegistered id))
    (hentry : ∀ entry, registry.get? id = some entry →
      Run.Ensures t.total (t.faults .cancelled) frames (invoker entry input site)
        (t.Permits signals fun _ => True)) :
    Run.Ensures t.total (t.faults .cancelled) frames (call registry invoker id input site)
      (t.Permits signals fun _ => True) := by
  refine .unlessCancelled (fun h => h) ?_
  unfold invoke
  cases hget : registry.get? id with
  | some entry =>
      have hresolve : registry.resolve id = .ok ⟨entry, none⟩ := by
        simp only [Registry.resolve, hget]
      rw [hresolve]
      exact .bind (.record _) fun _ _ => hentry entry hget
  | none =>
      have hresolve : registry.resolve id = .error (.functionNotRegistered id) := by
        simp [Registry.resolve, hget, Registry.binding?, hbindings]
      rw [hresolve]
      exact .pure (hmissing hget)

end Engine

/-- The call of a step that keeps to a discipline. -/
theorem Discipline.callWithin_ensures {t : Terms} (discipline : Discipline t) :
    ∀ (limit : Nat) {inLoop : Bool} {step : Step}, discipline.admits limit inLoop step →
      ∀ (frames : List Frame) (state vars : State),
        Run.Ensures t.total (t.faults .cancelled) (⟨step.slotMap, state, vars⟩ :: frames)
          (Engine.callWithin .standard limit step.call (step.inputs.input ⟨state, vars⟩)
            ⟨step.slotMap, vars, step.collectPath⟩)
          (t.Permits inLoop fun _ => True) := by
  intro limit
  induction limit with
  | zero =>
      intro inLoop step hadmits frames state vars
      refine Engine.call_ensures rfl (discipline.registered hadmits) fun entry _ => ?_
      -- no function can be entered, so a run that has to end has no step here
      exact .exhausted fun htotal => discipline.starts htotal hadmits
  | succ limit ih =>
      intro inLoop step hadmits frames state vars
      refine Engine.call_ensures rfl (discipline.registered hadmits) fun entry hentry => ?_
      -- the sequences in the slots of the step inherit the discipline
      have hslots : ∀ name state' vars', Run.Ensures t.total (t.faults .cancelled)
          (⟨step.slotMap, state, vars⟩ :: frames)
          (Engine.runWithin .standard limit
            ((SlotMap.resolve step.slotMap name).getD []) state' vars')
          (t.Permits (inLoop || takesSignals step.call name) fun _ => True) := by
        intro name state' vars'
        refine Engine.runSteps_ensures (Engine.callWithin_evolves _ _)
          (fun inner hinner state => ih ?_ _ _ _) _
        cases hresolve : SlotMap.resolve step.slotMap name with
        | none =>
            rw [hresolve] at hinner
            cases hinner
        | some nested =>
            rw [hresolve] at hinner
            obtain ⟨given, hgiven, hsame⟩ := Step.mem_sequences_of_resolve hresolve
            have hinherited := discipline.inherited hadmits (given, nested) hgiven inner hinner
            rw [takesSignals_eq_of_sameSlot hsame] at hinherited
            exact hinherited
      have hfunction : Action.Ensures t limit (fun name => inLoop || takesSignals step.call name)
          inLoop (entry.function (step.inputs.input ⟨state, vars⟩)
            ⟨step.slotMap, vars, step.collectPath⟩) fun _ => True :=
        Registry.standard_ensures hentry _ _ (discipline.placed hadmits)
          (fun name hname => by simpa using hname)
          (fun htotal hwhile => discipline.bounded htotal hadmits hwhile ⟨state, vars⟩)
      refine .bind (Engine.perform_ensures (Engine.answer_ensures hslots) limit _ hfunction)
        fun result hresult => .pure ?_
      cases result with
      | ok v => trivial
      | error i => exact hresult

/-- **Steps that keep to a discipline keep to its terms.** -/
theorem Discipline.runWithin_ensures {t : Terms} (discipline : Discipline t) (limit : Nat)
    {inLoop : Bool} {steps : List Step}
    (hsteps : ∀ step ∈ steps, discipline.admits limit inLoop step) (frames : List Frame)
    (state vars : State) :
    Run.Ensures t.total (t.faults .cancelled) frames
      (Engine.runWithin .standard limit steps state vars) (t.Permits inLoop fun _ => True) := by
  refine Engine.runSteps_ensures (Engine.callWithin_evolves _ _) (fun step hstep state => ?_) _
  exact discipline.callWithin_ensures limit (hsteps step hstep) frames state vars

/-- The same for a whole run on a context of its own. -/
theorem Discipline.executeWithin_ensures {t : Terms} (discipline : Discipline t) {limit : Nat}
    {inLoop : Bool} {steps : List Step}
    (hsteps : ∀ step ∈ steps, discipline.admits limit inLoop step) {settings : Settings}
    {cancelled : Bool} (hcancelled : cancelled = true → t.faults .cancelled)
    (htimeout : settings.timeoutMs ≠ none → t.faults .cancelled) (initial : State) :
    (t.total → Session.executeWithin limit .standard settings cancelled steps initial ≠ none) ∧
      ∀ report, Session.executeWithin limit .standard settings cancelled steps initial =
        some report →
        ∃ result, report.outcome = Session.outcomeOf result ∧
          t.Permits inLoop (fun _ => True) result := by
  -- a clock is there only if there is a time limit
  have hfits : Context.Fits (t.faults .cancelled) []
      ((Session.context settings cancelled).record (.runStarted steps.length)) := by
    refine ⟨rfl, hcancelled, fun hclock => htimeout fun hnone => hclock ?_⟩
    show settings.timeoutMs.map _ = none
    rw [hnone]
    rfl
  obtain ⟨hends, hpermits⟩ := discipline.runWithin_ensures limit hsteps [] initial [] _ hfits
  unfold Session.executeWithin
  dsimp only
  cases hrun : Engine.runWithin .standard limit steps initial []
      ((Session.context settings cancelled).record (.runStarted steps.length)) with
  | none => exact ⟨fun htotal => (hends htotal hrun).elim, nofun⟩
  | some p =>
      obtain ⟨result, d⟩ := p
      refine ⟨fun _ => nofun, fun report hreport => ?_⟩
      cases hreport
      exact ⟨result, rfl, (hpermits result d hrun).1⟩

end StepFlow
