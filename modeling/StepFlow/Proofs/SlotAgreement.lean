import StepFlow.Builtin
import StepFlow.Proofs.Performing

/-
  StepFlow.Proofs.SlotAgreement
  ─────────────────────────────
  What a function is told about its slots is what it runs.

  A function learns from its call site which slots its step has, and runs them out of
  the frame on top.  Site and frame are made of the same slot table at the start of the
  step; what the function does afterwards, its nested runs and their failures included,
  leaves the frames alone (`Moment.frames_eq`).  So at every moment of the function's
  own run both speak of the same sequences (`slots_agree_throughout`).

  `Moment` is the relation between where a program started and where it stands later
  on, one rule for each thing that a program can do.  `resolve_slotMap` says which
  sequence is found under a name, given how `children` and `body` stand in for each
  other.
-/

namespace StepFlow

/-! ## §1. The sequence of a slot -/

namespace Step

/-- The sequence that the step declares under a name. -/
def declared? (step : Step) (name : String) : Option (List Step) :=
  Dict.get? (Dict.ofEntries step.slots) name

/-- The sequence of a slot: `body` is also looked for under `children`, and `children` under
`body` after the step's own children. -/
def sequence? (step : Step) (name : String) : Option (List Step) :=
  if name = bodySlot then
    (step.declared? bodySlot).or ((step.declared? childrenSlot).or step.children)
  else if name = childrenSlot then
    (step.declared? childrenSlot).or (step.children.or (step.declared? bodySlot))
  else step.declared? name

/-- The steps of a slot; a slot that is not there has none. -/
def slotSteps (step : Step) (name : String) : List Step :=
  (step.sequence? name).getD []

/-- The slot table before the body doubles as the children. -/
def ownTable (step : Step) : SlotMap :=
  Dict.insertAll
    (match step.children with
      | some steps => [(childrenSlot, steps)]
      | none => [])
    step.slots

theorem get?_ownTable_children (step : Step) :
    Dict.get? step.ownTable childrenSlot = (step.declared? childrenSlot).or step.children := by
  rw [ownTable, Dict.get?_insertAll_ofEntries]
  cases step.children <;> rfl

theorem get?_ownTable_of_ne (step : Step) {name : String} (h : childrenSlot ≠ name) :
    Dict.get? step.ownTable name = step.declared? name := by
  rw [ownTable, Dict.get?_insertAll_ofEntries]
  cases step.children with
  | none => exact Option.or_none
  | some steps =>
      have hother : Dict.get? [(childrenSlot, steps)] name = none := by simp [Dict.get?, h]
      show Option.or _ (Dict.get? [(childrenSlot, steps)] name) = _
      rw [hother]
      exact Option.or_none

/-- The whole table: the body doubles as the children if there are none. -/
theorem slotMap_eq (step : Step) :
    step.slotMap =
      if (Dict.get? step.ownTable childrenSlot).isSome then step.ownTable
      else match Dict.get? step.ownTable bodySlot with
        | some body => Dict.insert step.ownTable childrenSlot body
        | none => step.ownTable := rfl

/-- Under `children` the table has what the step itself says, else the body. -/
theorem get?_slotMap_children (step : Step) :
    Dict.get? step.slotMap childrenSlot =
      ((step.declared? childrenSlot).or step.children).or (step.declared? bodySlot) := by
  have hbody : Dict.get? step.ownTable bodySlot = step.declared? bodySlot :=
    step.get?_ownTable_of_ne (by decide)
  rw [slotMap_eq, ← get?_ownTable_children, hbody]
  cases hown : Dict.get? step.ownTable childrenSlot with
  | some steps => exact hown
  | none =>
      cases step.declared? bodySlot with
      | none => exact hown
      | some body => exact Dict.get?_insert_self step.ownTable childrenSlot body

/-- Under any other name it has what is declared so. -/
theorem get?_slotMap_of_ne (step : Step) {name : String} (h : childrenSlot ≠ name) :
    Dict.get? step.slotMap name = step.declared? name := by
  rw [← step.get?_ownTable_of_ne h, slotMap_eq]
  split
  · rfl
  · split
    · exact Dict.get?_insert_of_ne _ _ h
    · rfl

/-- **Which sequence a name finds.** -/
theorem resolve_slotMap (step : Step) (name : String) :
    SlotMap.resolve step.slotMap name = step.sequence? name := by
  have hne : childrenSlot ≠ bodySlot := by decide
  unfold SlotMap.resolve sequence?
  by_cases hbody : name = bodySlot
  · -- the table has no body of its own making, and its children may be the body
    subst hbody
    rw [step.get?_slotMap_of_ne hne, step.get?_slotMap_children]
    cases step.declared? bodySlot with
    | some steps => rfl
    | none => simp [hne.symm]
  · by_cases hchildren : name = childrenSlot
    · subst hchildren
      rw [step.get?_slotMap_of_ne hne, step.get?_slotMap_children, if_neg hbody]
      cases step.declared? childrenSlot with
      | some steps => rfl
      | none => cases step.children <;> cases step.declared? bodySlot <;> rfl
    · rw [step.get?_slotMap_of_ne (Ne.symm hchildren)]
      simp only [hbody, hchildren, if_false]
      cases step.declared? name <;> rfl

end Step

/-! ## §2. The moments of a program -/

namespace Engine

section Moments

variable {answer : (r : Request) → Run r.Reply} {limit : Nat}

/-- A program that started in one context has the turn itself in another one: what it asked for
before is done, whatever came out of it, and it asks for the next thing from there. -/
inductive Moment (answer : (r : Request) → Run r.Reply) (limit : Nat) :
    {α : Type} → Program α → Context → Context → Prop where
  /-- At its start. -/
  | start {α : Type} (p : Program α) (c : Context) : Moment answer limit p c c
  /-- After a request was answered. -/
  | answered {α : Type} {r : Request} {next : r.Reply → Program α} {x : r.Reply}
      {c d e : Context} (hasked : answer r c = some (x, d))
      (later : Moment answer limit (next x) d e) : Moment answer limit (.ask r next) c e
  /-- In a part with a scope of its own. -/
  | inside {α β : Type} {body : Program β} {next : β → Program α} {c e : Context}
      (within : Moment answer limit body c.openScope e) :
      Moment answer limit (.inScope body next) c e
  /-- After such a part. -/
  | closed {α β : Type} {body : Program β} {next : β → Program α} {b : β} {c d e : Context}
      (hended : Run.inScope (perform answer limit body) c = some (b, d))
      (later : Moment answer limit (next b) d e) : Moment answer limit (.inScope body next) c e
  /-- In the first round of a loop. -/
  | inRound {α β σ : Type} {round : σ → Program (σ ⊕ β)} {first : σ} {next : β → Program α}
      {c e : Context} (within : Moment answer limit (round first) c e) :
      Moment answer limit (.rounds round first next) c e
  /-- After a round that the loop goes on from. -/
  | nextRound {α β σ : Type} {round : σ → Program (σ ⊕ β)} {first s : σ} {next : β → Program α}
      {c d e : Context} (hended : perform answer limit (round first) c = some (.inl s, d))
      (later : Moment answer limit (.rounds round s next) d e) :
      Moment answer limit (.rounds round first next) c e
  /-- After a round that ends the loop. -/
  | lastRound {α β σ : Type} {round : σ → Program (σ ⊕ β)} {first : σ} {next : β → Program α}
      {b : β} {c d e : Context} (hended : perform answer limit (round first) c = some (.inr b, d))
      (later : Moment answer limit (next b) d e) :
      Moment answer limit (.rounds round first next) c e

/-- Up to any moment only moves were made. -/
theorem Moment.evolves (hanswer : ∀ r, Run.Evolving (answer r)) {α : Type} {p : Program α}
    {c d : Context} (h : Moment answer limit p c d) : ∃ es, c.Evolves es d := by
  have hperform {β : Type} (q : Program β) : Run.Evolving (perform answer limit q) :=
    perform_evolves_of_answer hanswer limit q
  induction h with
  | start p c => exact ⟨[], .refl c⟩
  | answered hasked _ ih =>
      exact Context.exists_evolves_trans (hanswer _ _ _ _ hasked) ih
  | inside _ ih =>
      exact Context.exists_evolves_trans ⟨_, .openScope _⟩ ih
  | closed hended _ ih =>
      have hpart := Run.Evolving.inScope (hperform _) _ _ _ hended
      exact Context.exists_evolves_trans hpart ih
  | inRound _ ih => exact ih
  | nextRound hended _ ih =>
      exact Context.exists_evolves_trans (hperform _ _ _ _ hended) ih
  | lastRound hended _ ih =>
      exact Context.exists_evolves_trans (hperform _ _ _ _ hended) ih

end Moments

variable {registry : Registry} {limit : Nat} {c d : Context}

theorem Moment.frames_eq {α : Type} {p : Program α}
    (h : Moment (answer registry (enter registry limit)) limit p c d) : d.frames = c.frames := by
  obtain ⟨es, hes⟩ := h.evolves (answer_evolves (enter_evolves registry limit))
  exact hes.frames_eq

/-- What a function is told about a slot of its step and what it runs agree at a moment: `before`
is where the run stands. -/
structure SlotAgrees (registry : Registry) (limit : Nat) (step : Step) (state vars : State)
    (name : String) (before : Context) : Prop where
  /-- The table of the step has its sequence under the name. -/
  found : SlotMap.resolve step.slotMap name = step.sequence? name
  /-- The slot is its sequence, run from the state and with the slot variables of the step. -/
  runs : answer registry (enter registry limit) (.runSlot name none none) before =
    Run.inScope (runWithin registry limit (step.slotSteps name) state vars)
      (before.tick.record (.slotStarted name (step.slotSteps name).length))
  /-- The function is told that the slot is there exactly if that sequence has a step. -/
  told : CallSite.hasSlot ⟨step.slotMap, vars, step.collectPath⟩ name = true ↔
    step.slotSteps name ≠ []
  /-- A slot that is not there gives back the state it is given, or that of the step.  It is
  opened and closed, and that is all. -/
  missing : CallSite.hasSlot ⟨step.slotMap, vars, step.collectPath⟩ name = false →
    ∀ given givenVars : Option State, ∃ after,
      answer registry (enter registry limit) (.runSlot name given givenVars) before =
          some (.ok (given.getD state), after) ∧
        before.eventsTo after = [.slotStarted name 0, .scopeOpened, .scopeClosed]

/-- A sequence without steps gives back its state, in a scope that is closed again. -/
theorem inScope_runWithin_nil (state vars : State) (c : Context) :
    Run.inScope (runWithin registry limit [] state vars) c =
      some (.ok state, c.openScope.closeScope) := by
  have hclose : c.openScope.closeTo c.depth = c.openScope.closeScope :=
    Context.closeTo_eq_closeScope rfl
  show some (_, c.openScope.closeTo c.depth) = _
  rw [hclose]

theorem slotAgrees_of_frames {step : Step} {state vars : State} {rest : List Frame}
    (hframes : d.frames = ⟨step.slotMap, state, vars⟩ :: rest) (hd : d.mayStart 1 = true)
    (name : String) : SlotAgrees registry limit step state vars name d := by
  have hsteps : (SlotMap.resolve step.slotMap name).getD [] = step.slotSteps name :=
    congrArg (Option.getD · []) (step.resolve_slotMap name)
  have hruns (given givenVars : Option State) :
      answer registry (enter registry limit) (.runSlot name given givenVars) d =
        Run.inScope (runWithin registry limit (step.slotSteps name) (given.getD state)
          (givenVars.getD vars))
          (d.tick.record (.slotStarted name (step.slotSteps name).length)) := by
    show runSlot (callWithin registry limit) name given givenVars d = _
    rw [runSlot_eq_runSlotFrom hframes, runSlotFrom, Run.unlessCancelled_of_mayStart _ hd]
    dsimp only
    rw [hsteps]
    rfl
  refine ⟨step.resolve_slotMap name, hruns none none, ?_, ?_⟩
  · rw [← hsteps]
    exact SlotMap.has_iff step.slotMap name
  · intro hmissing given givenVars
    have hnone : step.slotSteps name = [] := by
      rw [← hsteps]
      exact (SlotMap.has_eq_false_iff step.slotMap name).mp hmissing
    rw [hruns, hnone, inScope_runWithin_nil]
    refine ⟨_, rfl, ?_⟩
    -- the scope that was opened is empty, so no cleanup runs when it closes
    have hevents := (Context.tick_evolves_of_mayStart hd).trans
      ((Context.Evolves.start d.tick (e := .slotStarted name 0) rfl (Context.tick_active hd)).trans
        ((Context.Evolves.openScope _).trans (.closeScope _ rfl)))
    exact hevents.eventsTo_eq

/-- **What a function is told about its slots agrees with what it runs**, at every moment of its
own run.  Whatever answers the call of a step runs in a context of its own; and whatever it did
from there, as long as a nested run may still start, every slot agrees. -/
theorem slots_agree_throughout {step : Step} {found : Resolution}
    (hresolve : registry.resolve step.call = .ok found) (hc : c.mayStart 2 = true)
    (vars : State) (index : Nat) (state : State) :
    runStep (callWithin registry (limit + 1)) vars index step state c =
        (performWithin registry limit
          (found.entry.function (step.inputs.input ⟨state, vars⟩)
            ⟨step.slotMap, vars, step.collectPath⟩)
          (invocationContext found vars index step state c)).bind
            (fun p => mergeStep step state (p.1.map found.entry.restrict)
              (p.2.closeTo c.depth).popFrame) ∧
      ∀ (d : Context) (name : String),
        Moment (answer registry (enter registry limit)) limit
          (found.entry.function (step.inputs.input ⟨state, vars⟩)
            ⟨step.slotMap, vars, step.collectPath⟩).run
          (invocationContext found vars index step state c) d →
        d.mayStart 1 = true →
          SlotAgrees registry limit step state vars name d := by
  refine ⟨runStep_of_resolve hresolve hc vars index state, fun d name hmoment hd => ?_⟩
  have hframes : d.frames = ⟨step.slotMap, state, vars⟩ :: c.frames := by
    rw [hmoment.frames_eq]
    exact invocationContext_frames found vars index step state c
  exact slotAgrees_of_frames hframes hd name

/-- Run a slot and go on, however it ended. -/
def probe : Function := fun _ _ => do
  let _ ← Action.trySlot "broken" none none
  return .null

/-- A step with a body beside children that are empty, and with a slot that fails. -/
def probeStep : Step :=
  ⟨"probe", .empty, .empty,
    [("body", [.ofCall Builtin.setId]), ("broken", [.ofCall Flow.throwId])], some [], none⟩

/-- A run with that function. -/
def probeRegistry : Registry := Registry.standard.register "probe" probe

/-- After the failure, the children that the step declares still are what counts for `children`,
and there are none. -/
theorem probeStep_slots_agree :
    probeRegistry.resolve probeStep.call = .ok ⟨⟨"probe", [], probe⟩, none⟩ ∧
      (Context.start .info false none).mayStart 2 = true ∧
      ∃ d, Moment (answer probeRegistry (enter probeRegistry 2)) 2
          (probe [] ⟨probeStep.slotMap, [], none⟩).run
          (invocationContext ⟨⟨"probe", [], probe⟩, none⟩ [] 0 probeStep []
            (.start .info false none)) d ∧
        d.mayStart 1 = true ∧ SlotAgrees probeRegistry 2 probeStep [] [] childrenSlot d ∧
        probeStep.slotSteps childrenSlot = [] := by
  have hresolve : probeRegistry.resolve probeStep.call = .ok ⟨⟨"probe", [], probe⟩, none⟩ := rfl
  have hstart : (Context.start .info false none).mayStart 2 = true := rfl
  obtain ⟨-, hagree⟩ := @slots_agree_throughout probeRegistry 2 _ _ _ hresolve hstart [] 0 []
  refine ⟨hresolve, hstart, _, .answered rfl (.start _ _), rfl, ?_, rfl⟩
  exact hagree _ childrenSlot (.answered rfl (.start _ _)) rfl

end Engine

end StepFlow
