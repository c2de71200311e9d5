import StepFlow.Proofs.LogFilter
import StepFlow.Proofs.Performing
import StepFlow.Proofs.RoundTrip
import StepFlow.Proofs.StateGrowth

/-
  StepFlow.Proofs.Inlining
  ────────────────────────
  A conditional step is the branch that it chooses.

  A step that runs one of two branches and spreads its result runs the branch in
  scopes and a frame of its own, from a copy of the state, and merges the final
  state of that copy back.  What the standard functions do depends on neither the
  scopes nor the frames around them, and a state only grows, so merging it into
  the state it grew from gives it back, order included.

  `conditional_inlines`: the outcome and the log records are those of the branch.
-/

namespace StepFlow

/-! ## §1. A state merged into the one it grew from -/

namespace Dict

variable {α : Type}

theorem insert_append_of_not_mem {d : Dict α} (e : Dict α) {key : String} (value : α)
    (h : key ∉ keys d) : insert (d ++ e) key value = d ++ insert e key value := by
  induction d with
  | nil => rfl
  | cons entry rest ih =>
      obtain ⟨k, v⟩ := entry
      have hne : k ≠ key := fun hk => h (hk ▸ List.mem_cons_self)
      have hrest : key ∉ keys rest := fun hk => h (List.mem_cons_of_mem k hk)
      rw [List.cons_append, insert, if_neg hne, ih hrest, List.cons_append]

/-- Writing entries over those with the same keys: they take their places one by one, and what
is left of them goes to the end. -/
theorem insertAll_append_of_prefix (old : Dict α) :
    ∀ {done new : Dict α}, keys old <+: keys new → (keys (done ++ new)).Nodup →
      insertAll (done ++ old) new = done ++ new := by
  induction old with
  | nil =>
      intro done new _ hnodup
      rw [List.append_nil]
      exact insertAll_of_nodup new done hnodup
  | cons first others ih =>
      obtain ⟨key, v⟩ := first
      intro done new hold hnodup
      cases new with
      | nil => cases List.prefix_nil.mp hold
      | cons entry rest =>
          obtain ⟨key', value⟩ := entry
          obtain ⟨rfl, hothers⟩ : key = key' ∧ keys others <+: keys rest :=
            List.cons_prefix_cons.mp hold
          have hfresh : key ∉ keys done := not_mem_keys_of_nodup_append hnodup
          have hnext : (keys ((done ++ [(key, value)]) ++ rest)).Nodup := by
            rw [List.append_assoc]
            exact hnodup
          show insertAll (insert (done ++ (key, v) :: others) key value) rest = _
          rw [insert_append_of_not_mem _ value hfresh, insert, if_pos rfl, List.append_cons,
            ih hothers hnext, List.append_assoc]
          rfl

/-- Writing all of a dictionary into one that it extends gives it back. -/
theorem insertAll_eq_of_prefix {old new : Dict α} (hkeys : keys old <+: keys new)
    (hnodup : (keys new).Nodup) : insertAll old new = new :=
  show insertAll ([] ++ old) new = [] ++ new from insertAll_append_of_prefix old hkeys hnodup

end Dict

/-- A state without a key twice. -/
abbrev State.IsNodup (state : State) : Prop :=
  (Dict.keys state).Nodup

/-! ## §2. Parts of a run that do not show -/

namespace Run

variable {α β : Type}

/-- What shows of a run: its result and the log records. -/
def seen (m : Run α) (c : Context) : Option (α × List LogRecord) :=
  (m c).map fun p => (p.1, p.2.logs)

/-- Closing a scope logs nothing. -/
theorem seen_inScope (m : Run α) (c : Context) : seen (inScope m) c = seen m c.openScope := by
  show ((m c.openScope).bind fun p => some (p.1, p.2.closeTo c.depth)).map _ = _
  unfold seen
  cases m c.openScope with
  | none => rfl
  | some p => exact congrArg (fun logs => some (p.1, logs)) (Context.logs_closeScopes _ p.2)

theorem seen_inFrame (frame : Frame) (m : Run α) (c : Context) :
    seen (inFrame frame m) c = seen m (c.pushFrame frame) := by
  show ((m (c.pushFrame frame)).bind fun p => some (p.1, p.2.popFrame)).map _ = _
  unfold seen
  cases m (c.pushFrame frame) <;> rfl

/-- Without a clock no part is refused that the run is not cancelled for already. -/
theorem seen_unlessCancelled (m : Run (Outcome α)) {c : Context} (hc : c.cancelled = false)
    (hclock : c.clock = none) : seen (unlessCancelled m) c = seen m c := by
  have htick : c.tick = c := by simp [Context.tick, hc, hclock]
  unfold seen
  rw [unlessCancelled_apply, htick, hc]
  rfl

/-- A rest that logs nothing. -/
theorem seen_bind {m : Run α} {f : α → Run β} {g : α → β}
    (hf : ∀ a d, ∃ e, f a d = some (g a, e) ∧ d.Quiet e) (c : Context) :
    seen (m >>= f) c = (seen m c).map fun p => (g p.1, p.2) := by
  show ((m c).bind fun p => f p.1 p.2).map _ = _
  unfold seen
  cases m c with
  | none => rfl
  | some p =>
      obtain ⟨e, he, hquiet⟩ := hf p.1 p.2
      show (f p.1 p.2).map _ = _
      rw [he]
      exact congrArg (fun logs => some (g p.1, logs)) hquiet.logs

end Run

namespace Engine

variable {caller : Caller} {c : Context}

/-- A step up to where its function is called. -/
theorem seen_callStep (hc : c.cancelled = false) (hclock : c.clock = none) (vars : State)
    (index : Nat) (step : Step) (state : State) :
    Run.seen (callStep caller vars index step state) c =
      Run.seen (caller step.call (step.inputs.input ⟨state, vars⟩)
          ⟨step.slotMap, vars, step.collectPath⟩)
        (((c.record (.stepStarted index step.call)).recordAll
          ((step.inputs.skippedInput ⟨state, vars⟩).map .spreadSkipped)).pushFrame
          ⟨step.slotMap, state, vars⟩).openScope := by
  rw [callStep, Run.seen_unlessCancelled _ hc hclock]
  exact (Run.seen_inFrame _ _ _).trans (Run.seen_inScope _ _)

/-- What merging a result into the state makes of an outcome. -/
def mergeOutcome (step : Step) (state : State) : Outcome Value → Outcome State
  | .error i => .error i
  | .ok v => .ok (step.outputs.output v state)

/-- A step is its call, whose result is merged into the state. -/
theorem seen_runStep (hcaller : ∀ id input site, Run.Evolving (caller id input site))
    (vars : State) (index : Nat) (step : Step) (state : State) :
    Run.seen (runStep caller vars index step state) c =
      (Run.seen (callStep caller vars index step state) c).map fun p =>
        (mergeOutcome step state p.1, p.2) := by
  rw [runStep_eq_keepStep hcaller]
  refine Run.seen_bind (fun result d => ?_) c
  cases result with
  | error i => exact ⟨d, rfl, .refl d⟩
  | ok v =>
      refine ⟨_, rfl, .recordAll (fun e he => ?_) d⟩
      obtain ⟨source, -, rfl⟩ := List.mem_map.mp he
      rfl

theorem runSteps_singleton (step : Step) (state vars : State) :
    runSteps caller [step] state vars = runStep caller vars 0 step state := by
  calc runSteps caller [step] state vars
    _ = runStep caller vars 0 step state >>= pure := by
        rw [runSteps, runStepsFrom]
        congr 1
        -- nothing is left to run, whatever the outcome of the step
        funext r
        cases r <;> rfl
    _ = runStep caller vars 0 step state := bind_pure _

/-- A slot is its sequence, from the state of the step. -/
theorem seen_runSlot (hc : c.cancelled = false) (hclock : c.clock = none) {frame : Frame}
    {rest : List Frame} (hframes : c.frames = frame :: rest) (name : String) :
    Run.seen (runSlot caller name none none) c =
      Run.seen (runSteps caller ((SlotMap.resolve frame.slots name).getD []) frame.state frame.vars)
        (c.record (.slotStarted name
          ((SlotMap.resolve frame.slots name).getD []).length)).openScope := by
  have hfrom : Run.seen (runSlot caller name none none) c =
      Run.seen (runSlotFrom caller frame.slots name frame.state frame.vars) c := by
    unfold Run.seen
    rw [runSlot_eq_runSlotFrom hframes]
    rfl
  rw [hfrom, runSlotFrom, Run.seen_unlessCancelled _ hc hclock]
  exact Run.seen_inScope _ _

/-- Runs of the standard functions depend on neither scopes nor frames, nor on what was
recorded besides logs. -/
theorem seen_runWithin_of_quiet {d : Context} (h : c.Quiet d) (limit : Nat) (steps : List Step)
    (state vars : State) :
    Run.seen (runWithin .standard limit steps state vars) d =
      Run.seen (runWithin .standard limit steps state vars) c := by
  have hview := LogView.same_relates h ⟨0, rfl, rfl⟩
  unfold Run.seen
  match runWithin .standard limit steps state vars c, runWithin .standard limit steps state vars d,
    LogView.runWithin_corresponds _ limit steps state vars hview with
  | _, _, .none => rfl
  | _, _, .some (a := p) (b := q) ⟨hresult, hend⟩ =>
      rw [Option.map_some, Option.map_some, hresult, hend.quiet_of_same.logs]

end Engine

/-! ## §3. The conditional step -/

namespace Roots

/-- An entry reads what the value reads that stands for it. -/
theorem eval_ofValue (r : Roots) (e : Value) : r.eval (Binding.ofValue e).expr = r.eval e := by
  cases e with
  | obj members =>
      by_cases h : isOptionalWrapper members = true
      · rw [Binding.ofValue, if_pos h, eval, if_pos h, evalWrapped_eq]
        rfl
      · rw [Binding.ofValue, if_neg h]
        rfl
  | null | bool _ | num _ | str _ | arr _ => rfl

end Roots

namespace Flow

/-- A step that runs `xs` if the condition reads as `true`, else `ys`, and spreads the final
state. -/
def conditional (cond : Value) (xs ys : List Step) : Step :=
  ⟨ifId, ⟨[], [("cond", .ofValue cond)]⟩, ⟨[⟨.str "$", none, false⟩], []⟩,
    [("then", xs), ("else", ys)], none, none⟩

/-- The step as it stands in a document. -/
theorem read_conditional (cond : Value) {v w : Value} {xs ys : List Step}
    (hxs : Step.readSequence v = .ok xs) (hys : Step.readSequence w = .ok ys) :
    Step.read (.obj [("call", .str ifId), ("in", .obj [("cond", cond)]),
      ("slots", .obj [("then", v), ("else", w)]),
      ("out", .obj [(spreadKey, .arr [.obj [("source", .str "$")]])])]) =
      .ok (conditional cond xs ys) := by
  have hin : Bindings.read (.obj [("cond", cond)]) = .ok ⟨[], [("cond", .ofValue cond)]⟩ := rfl
  have hslots : Step.readSlotTable (.obj [("then", v), ("else", w)]) =
      .ok [("then", xs), ("else", ys)] := by
    simp [Step.readSlotTable, Step.readSlots, hxs, hys, Except.map]
  have hout : Bindings.read (.obj [(spreadKey, .arr [.obj [("source", .str "$")]])]) =
      .ok ⟨[⟨.str "$", none, false⟩], []⟩ := rfl
  simp [Step.read, Step.readFields, StepDraft.set, StepDraft.blank, StepDraft.finish, hin, hslots,
    hout, readText, Except.map, Except.bind, conditional]

/-- The branch that a condition chooses. -/
def chosen (r : Roots) (cond : Value) (xs ys : List Step) : List Step :=
  if r.eval cond = some (.bool true) then xs else ys

theorem holds_input (cond : Value) (xs ys : List Step) (r : Roots) :
    holds ((conditional cond xs ys).inputs.input r) = decide (r.eval cond = some (.bool true)) := by
  have hinput : (conditional cond xs ys).inputs.input r =
      (Binding.ofValue cond).write "cond" (r.eval cond) [] := by
    rw [← r.eval_ofValue cond]
    rfl
  rw [hinput]
  cases r.eval cond with
  | none =>
      -- nothing is written, or null
      unfold Binding.write
      dsimp only
      split <;> rfl
  | some v =>
      cases v with
      | bool b => cases b <;> rfl
      | null | num _ | str _ | arr _ | obj _ => rfl

theorem resolve_conditional (cond : Value) (xs ys : List Step) (b : Bool) :
    SlotMap.resolve (conditional cond xs ys).slotMap (branchName b) =
      some (if b then xs else ys) := by
  cases b <;> rfl

end Flow

namespace Engine

open StepFlow.Flow

/-- Calling `branch`: its slot runs, and the final state is the result. -/
theorem seen_callBranch (limit : Nat) (input : State) (site : CallSite) {c : Context}
    (hc : c.cancelled = false) (hclock : c.clock = none) :
    Run.seen (callWithin .standard (limit + 1) ifId input site) c =
      (Run.seen (runSlot (callWithin .standard limit) (branchName (holds input)) none none)
        ((c.record (.entered ifId)).record
          (.noted (.flow (.branchChosen (holds input) (branchName (holds input))))))).map
        fun p => (p.1.map Value.obj, p.2) := by
  have hget : Registry.standard.get? ifId = some ⟨ifId, [], branch⟩ := rfl
  have hbranch : performWithin .standard limit (branch input site) = (do
      Run.record (.noted (.flow (.branchChosen (holds input) (branchName (holds input)))))
      performWithin .standard limit (do
        return Value.obj (← Action.runSlot (branchName (holds input)) none none))) :=
    performWithin_bind (Action.report _) _
  rw [callWithin_succ hget, Run.seen_unlessCancelled _ hc hclock]
  simp only [map_restrict_of_no_outputs, bind_pure, hbranch]
  show (performWithin .standard limit _ _).map _ = _
  rw [performWithin_map, performWithin_runSlot, Option.map_map]
  unfold Run.seen
  rw [Option.map_map]
  rfl

/-- A conditional step is the sequence that its condition chooses, in a context that the step
has changed quietly. -/
theorem seen_conditional (cond : Value) (xs ys : List Step) (state vars : State) (limit : Nat)
    {c : Context} (hc : c.cancelled = false) (hclock : c.clock = none) :
    ∃ d, c.Quiet d ∧
      Run.seen (runWithin .standard (limit + 1) [conditional cond xs ys] state vars) c =
        (Run.seen (runWithin .standard limit (chosen ⟨state, vars⟩ cond xs ys) state vars) d).map
          fun p => (mergeOutcome (conditional cond xs ys) state (p.1.map Value.obj), p.2) := by
  let frame : Frame := ⟨(conditional cond xs ys).slotMap, state, vars⟩
  -- the context when the function is called, and when its slot is about to run
  let called := ((c.record (.stepStarted 0 ifId)).pushFrame frame).openScope
  let held := decide ((Roots.mk state vars).eval cond = some (.bool true))
  let entered := (called.record (.entered ifId)).record
    (.noted (.flow (.branchChosen held (branchName held))))
  have hsteps : (SlotMap.resolve frame.slots (branchName held)).getD [] =
      chosen ⟨state, vars⟩ cond xs ys := by
    rw [resolve_conditional]
    simp [held, chosen]
  refine ⟨(entered.record (.slotStarted (branchName held)
    (chosen ⟨state, vars⟩ cond xs ys).length)).openScope, ?_, ?_⟩
  · have hframed : (c.record (.stepStarted 0 ifId)).Quiet
        ((c.record (.stepStarted 0 ifId)).pushFrame frame) := ⟨rfl, rfl, rfl, rfl⟩
    have hcalled : c.Quiet called :=
      ((Context.Quiet.record c rfl).trans hframed).trans (.openScope _)
    have hentered : c.Quiet entered :=
      (hcalled.trans (.record _ rfl)).trans (.record _ rfl)
    exact (hentered.trans (.record _ rfl)).trans (.openScope _)
  · rw [runWithin, runSteps_singleton, seen_runStep (callWithin_evolves _ _),
      seen_callStep hc hclock]
    show (Run.seen (callWithin .standard (limit + 1) ifId _ _) called).map _ = _
    have hframes : entered.frames = frame :: c.frames := rfl
    rw [seen_callBranch limit _ _ (c := called) hc hclock, holds_input,
      seen_runSlot (c := entered) hc hclock hframes, hsteps, Option.map_map]
    rfl

/-- A sequence writes no key twice into its state. -/
theorem runWithin_isNodup {registry : Registry} {limit : Nat} {steps : List Step}
    {state last vars : State} {c d : Context} (hstate : State.IsNodup state)
    (h : runWithin registry limit steps state vars c = some (.ok last, d)) :
    State.IsNodup last := by
  have hmerge : ∀ step ∈ steps, ∀ v next, State.IsNodup next →
      State.IsNodup (step.outputs.output v next) := by
    intro step _ v next hnext
    refine step.outputs.output_keeps ?_ (fun _ _ => trivial) v hnext
    exact fun _ key value _ hs => Dict.nodup_keys_insert hs key value
  exact runStepsFrom_keeps (callWithin_evolves registry limit) vars steps hmerge h hstate

/-- A result that is merged into the state it grew from. -/
theorem mergeOutcome_conditional (cond : Value) (xs ys : List Step) {state : State}
    (hstate : State.IsNodup state) {limit : Nat} {steps : List Step} {vars : State}
    {r : Outcome State} {c d : Context}
    (h : runWithin .standard limit steps state vars c = some (r, d)) :
    mergeOutcome (conditional cond xs ys) state (r.map Value.obj) = r := by
  cases r with
  | error i => rfl
  | ok last =>
      have hgrows := (runStepsFrom_growsBy (callWithin_evolves .standard limit) vars steps h).keys
      have hnodup := runWithin_isNodup hstate h
      -- the spread writes all of the result into the state
      show Except.ok (Dict.insertAll state last) = _
      rw [Dict.insertAll_eq_of_prefix hgrows hnodup]

/-- **A conditional step that spreads its result is the branch that it chooses.**  Over the
standard registry, in a context that is not cancelled and has no clock, it has the same outcome
as the branch, with a state of the same keys in the same order, and the same log records; and it
ends within a limit if the branch ends within one less. -/
theorem conditional_inlines (cond : Value) (xs ys : List Step) {state : State}
    (hstate : State.IsNodup state) (vars : State) (limit : Nat) {c : Context}
    (hc : c.cancelled = false) (hclock : c.clock = none) :
    Run.seen (runWithin .standard (limit + 1) [conditional cond xs ys] state vars) c =
      Run.seen (runWithin .standard limit (chosen ⟨state, vars⟩ cond xs ys) state vars) c := by
  obtain ⟨d, hquiet, hseen⟩ := seen_conditional cond xs ys state vars limit hc hclock
  rw [hseen, seen_runWithin_of_quiet hquiet]
  unfold Run.seen
  cases h : runWithin .standard limit (chosen ⟨state, vars⟩ cond xs ys) state vars c with
  | none => rfl
  | some p =>
      rw [Option.map_some, Option.map_some, mergeOutcome_conditional cond xs ys hstate h]

/-- Log the message `hi` and set `x` to what `flag` holds. -/
def greetAndSet : List Step :=
  [⟨Builtin.logId, ⟨[], [("message", .required (.str "hi"))]⟩, .empty, [], none, none⟩,
    ⟨Builtin.setId, ⟨[], [("x", .required (.str "$.flag"))]⟩, ⟨[⟨.str "$", none, false⟩], []⟩, [],
      none, none⟩]

/-- The condition reads `flag`, so the branch that throws is not run. -/
theorem greetAndSet_inlines : ∃ last records,
    Step.read (.obj [("call", .str ifId), ("in", .obj [("cond", .str "$.flag")]),
      ("slots", .obj [("then", .arr (Step.values greetAndSet)),
        ("else", .arr [.obj [("call", .str throwId)]])]),
      ("out", .obj [(spreadKey, .arr [.obj [("source", .str "$")]])])]) =
        .ok (conditional (.str "$.flag") greetAndSet [.ofCall throwId]) ∧
    Run.seen (runWithin .standard 2 [conditional (.str "$.flag") greetAndSet [.ofCall throwId]]
        [("x", .null), ("flag", .bool true)] []) (.start .info false none) =
      some (.ok last, records) ∧
    Run.seen (runWithin .standard 1 greetAndSet [("x", .null), ("flag", .bool true)] [])
        (.start .info false none) = some (.ok last, records) ∧
    last = [("x", .bool true), ("flag", .bool true)] ∧ records.length = 1 := by
  have hbranch : ∃ last records, Run.seen (runWithin .standard 1
        (chosen ⟨[("x", .null), ("flag", .bool true)], []⟩ (.str "$.flag") greetAndSet
          [.ofCall throwId])
        [("x", .null), ("flag", .bool true)] []) (.start .info false none) =
      some (.ok last, records) ∧
      last = [("x", .bool true), ("flag", .bool true)] ∧ records.length = 1 :=
    ⟨_, _, rfl, rfl, rfl⟩
  obtain ⟨last, records, hrun, hlast, hrecords⟩ := hbranch
  have hstate : State.IsNodup [("x", .null), ("flag", .bool true)] := by decide
  have hinlines := conditional_inlines (.str "$.flag") greetAndSet [.ofCall throwId] hstate [] 1
    (c := .start .info false none) rfl rfl
  exact ⟨last, records, read_conditional (.str "$.flag") rfl rfl, hinlines.trans hrun, hrun, hlast,
    hrecords⟩

end Engine

end StepFlow
