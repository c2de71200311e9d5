import StepFlow.Proofs.Discipline
import StepFlow.Proofs.Iteration
import StepFlow.Proofs.LogFilter

/-
  StepFlow.Proofs.LoopAgreement
  ─────────────────────────────
  A loop over items and a loop over tasks agree.

  `foreach` and `parallel` run a slot once for each item of a list, and each round
  starts from the state of the step.  `runItems` is the run of these rounds alone, and
  tells an interrupted round from one that a cancelled run did not get to (`RoundsEnd`).
  Both functions are loops of one form (`ItemLoop`), and such a loop follows its
  rounds (`itemLoop_follows`): they differ in what they take from a round that has
  ended, and in how they raise a failure.

  `foreach_agrees_with_parallel`: given the same items, the same sequence and the
  same collect path, the results of the first are those of the second without the
  nulls, and where the first fails the second fails with the structured form.  A run
  that is cancelled between two rounds ends both with the same fault.
-/

namespace StepFlow

/-! ## §1. The rounds of a loop -/

namespace Flow

/-- A round that ended with a state. -/
structure ItemRound where
  item : Value
  last : State
  vars : State

/-- How the rounds of a loop end. -/
inductive RoundsEnd where
  /-- There was one for each item. -/
  | complete (rounds : List ItemRound)
  /-- One was interrupted. -/
  | interrupted (i : Interrupt)
  /-- The run was cancelled before the next one. -/
  | stopped

/-- With one round more in front. -/
def RoundsEnd.cons (round : ItemRound) : RoundsEnd → RoundsEnd
  | .complete rounds => .complete (round :: rounds)
  | .interrupted i => .interrupted i
  | .stopped => .stopped

end Flow

namespace Engine

open StepFlow.Flow

variable {registry : Registry} {limit : Nat} {c d : Context} {frame : Frame} {rest : List Frame}

/-- Run a slot once for each item, every time from the same state.  The first interrupt is the
end, and so is a cancelled run. -/
def runItems (caller : Caller) (slots : SlotMap) (name : String) (state : State) :
    Nat → List Value → Run RoundsEnd
  | _, [] => return .complete []
  | index, item :: rest => do
      if (← get).cancelled then return .stopped
      else
        let vars : State := [("item", item), ("index", .int index)]
        match ← runSlotFrom caller slots name state vars with
        | .error i => return .interrupted i
        | .ok last => do
            let later ← runItems caller slots name state (index + 1) rest
            return later.cons ⟨item, last, vars⟩

section Rounds

variable {caller : Caller} {slots : SlotMap} {name : String} {state : State} {index : Nat}
  {item : Value} {others : List Value}

theorem runItems_of_cancelled (hc : c.cancelled = true) :
    runItems caller slots name state index (item :: others) c = some (.stopped, c) := by
  rw [runItems, Run.get_bind_apply, if_pos hc]
  rfl

theorem runItems_cons (hc : c.cancelled = false) :
    runItems caller slots name state index (item :: others) c =
      (runSlotFrom caller slots name state (itemVars (some item) index) c).bind fun
        | (.error i, d) => some (.interrupted i, d)
        | (.ok last, d) => (runItems caller slots name state (index + 1) others d).map fun p =>
            (p.1.cons ⟨item, last, itemVars (some item) index⟩, p.2) := by
  rw [runItems, Run.get_bind_apply, if_neg (by simp [hc])]
  show Option.bind (runSlotFrom caller slots name state _ c) _ = Option.bind _ _
  congr 1
  funext ⟨x, d⟩
  cases x with
  | error i => rfl
  | ok last =>
      show Option.bind (runItems caller slots name state (index + 1) others d) _ =
        Option.map _ (runItems caller slots name state (index + 1) others d)
      cases runItems caller slots name state (index + 1) others d <;> rfl

end Rounds

/-- If no round is interrupted, there is one for each item. -/
theorem length_of_runItems {caller : Caller} {slots : SlotMap} {name : String} {state : State}
    {items : List Value} :
    ∀ {index : Nat} {c d : Context} {rounds : List ItemRound},
      runItems caller slots name state index items c = some (.complete rounds, d) →
      rounds.length = items.length := by
  induction items with
  | nil =>
      intro index c d rounds h
      cases h
      rfl
  | cons item others ih =>
      intro index c d rounds h
      cases hc : c.cancelled with
      | true =>
          rw [runItems_of_cancelled hc] at h
          cases h
      | false =>
          rw [runItems_cons hc, Option.bind_eq_some_iff] at h
          obtain ⟨⟨x, e⟩, -, h⟩ := h
          cases x with
          | error i => cases h
          | ok last =>
              obtain ⟨⟨later, f⟩, hrest, hend⟩ := Option.map_eq_some_iff.mp h
              cases later with
              | complete found =>
                  cases hend
                  rw [List.length_cons, List.length_cons, ih hrest]
              | _ => cases hend

/-- Rounds that stop before they are through do so in a cancelled run. -/
theorem cancelled_of_runItems {caller : Caller} {slots : SlotMap} {name : String} {state : State}
    {items : List Value} :
    ∀ {index : Nat} {c d : Context},
      runItems caller slots name state index items c = some (.stopped, d) → d.cancelled = true := by
  induction items with
  | nil => intro index c d h; cases h
  | cons item others ih =>
      intro index c d h
      cases hc : c.cancelled with
      | true =>
          rw [runItems_of_cancelled hc] at h
          cases h
          exact hc
      | false =>
          rw [runItems_cons hc, Option.bind_eq_some_iff] at h
          obtain ⟨⟨x, e⟩, -, h⟩ := h
          cases x with
          | error i => cases h
          | ok last =>
              obtain ⟨⟨later, f⟩, hrest, hend⟩ := Option.map_eq_some_iff.mp h
              cases later with
              | stopped =>
                  cases hend
                  exact ih hrest
              | _ => cases hend

/-- Two slots with the same sequence, side by side. -/
theorem runSlotFrom_corresponds (view : LogView) (limit : Nat) {slots slots' : SlotMap}
    {name name' : String} {steps : List Step}
    (hslots : SlotMap.resolve slots name = some steps)
    (hslots' : SlotMap.resolve slots' name' = some steps) (state vars : State) :
    Run.Corresponds view.correspondence []
      (runSlotFrom (callWithin .standard limit) slots name state vars)
      (runSlotFrom (callWithin .standard limit) slots' name' state vars) Eq := by
  have hcaller := call_corresponds view.standard_corresponds
    (enter_corresponds view.correspondence_carries view.standard_corresponds limit)
  -- the slots have different names, but none of the two events is a log record
  have hstart : Run.Corresponds view.correspondence []
      (Run.record (.slotStarted name steps.length))
      (Run.record (.slotStarted name' steps.length)) Eq :=
    .modify fun h => h.of_frames_eq (h.holds.record rfl rfl) rfl rfl
  unfold runSlotFrom
  rw [hslots, hslots']
  exact .unlessCancelled (.bind hstart fun _ _ _ =>
    .inScope (runSteps_corresponds hcaller steps state vars))

/-- Rounds of the same sequence, run from contexts that correspond. -/
theorem runItems_corresponds (view : LogView) (limit : Nat) {slots slots' : SlotMap}
    {name name' : String} {steps : List Step}
    (hslots : SlotMap.resolve slots name = some steps)
    (hslots' : SlotMap.resolve slots' name' = some steps) (h : view.Relates c d) (state : State)
    (items : List Value) :
    Option.Rel (fun p q => p.1 = q.1 ∧ view.Relates p.2 q.2)
      (runItems (callWithin .standard limit) slots name state 0 items c)
      (runItems (callWithin .standard limit) slots' name' state 0 items d) := by
  have hitems : ∀ index, Run.Corresponds view.correspondence []
      (runItems (callWithin .standard limit) slots name state index items)
      (runItems (callWithin .standard limit) slots' name' state index items) Eq := by
    induction items with
    | nil => intro index; exact .pure rfl
    | cons item others ih =>
        intro index
        -- both look at the same flag
        refine .bind .get fun e e' he => ?_
        rw [he.holds.cancelled]
        split
        · exact .pure rfl
        · refine .bind (runSlotFrom_corresponds view limit hslots hslots' state _) fun r r' hr => ?_
          subst hr
          cases r with
          | error i => exact .pure rfl
          | ok last =>
              refine .bind (ih (index + 1)) fun x x' hx => ?_
              subst hx
              exact .pure rfl
  have hwithin : view.correspondence.Within [] c d := ⟨h, List.nil_prefix, List.nil_prefix⟩
  match runItems (callWithin .standard limit) slots name state 0 items c,
    runItems (callWithin .standard limit) slots' name' state 0 items d, hitems 0 c d hwithin with
  | _, _, .none => exact .none
  | _, _, .some ⟨hsame, hend⟩ => exact .some ⟨hsame, hend.holds⟩

end Engine

/-! ## §2. Loops over items -/

namespace Flow

/-- A loop that runs a slot for each item, takes something from each round and goes on.  A
failure is raised in some form; what a signal does is left open. -/
structure ItemLoop (name : String) (gather : ItemRound → List Value) (fail : Fault → Fault)
    (loop : Nat → List Value → List Value → Action (List Value)) : Prop where
  nil : ∀ index acc, loop index [] acc = pure acc.reverse
  cons : ∀ index item rest acc, ∃ after : Outcome State → Action (List Value),
    loop index (item :: rest) acc = (do
      Action.ensureActive
      after (← Action.trySlot name none (some (itemVars (some item) index)))) ∧
    (∀ last, after (.ok last) = loop (index + 1) rest
      ((gather ⟨item, last, itemVars (some item) index⟩).reverse ++ acc)) ∧
    ∀ e, after (.error (.fault e)) = Action.raise (.fault (fail e))

theorem eachItem_isItemLoop (site : CallSite) :
    ItemLoop bodySlot (fun r => found site r.item r.last r.vars) id (eachItem site) where
  nil _ _ := rfl
  cons _ _ _ _ := ⟨_, rfl, fun _ => rfl, fun _ => rfl⟩

theorem eachTask_isItemLoop (site : CallSite) :
    ItemLoop "tasks" (fun r => [taskResult site r.last r.vars]) (fun e => .flow e.toFlowError)
      (eachTask site) where
  nil _ _ := rfl
  cons _ _ _ _ := ⟨_, rfl, fun _ => rfl, fun _ => rfl⟩

/-- What a loop makes of its rounds, after what it has gathered before. -/
def gathered (gather : ItemRound → List Value) (fail : Fault → Fault) (before : List Value) :
    RoundsEnd → Outcome (List Value)
  | .complete rounds => .ok (before ++ rounds.flatMap gather)
  | .interrupted (.fault e) => .error (.fault (fail e))
  | .interrupted (.signal s) => .error (.signal s)
  | .stopped => .error (.fault .cancelled)

theorem gathered_cons_round (gather : ItemRound → List Value) (fail : Fault → Fault)
    (before : List Value) (round : ItemRound) (later : RoundsEnd) :
    gathered gather fail before (later.cons round) =
      gathered gather fail (before ++ gather round) later := by
  match later with
  | .complete rounds =>
      show Except.ok (before ++ (round :: rounds).flatMap gather) = _
      rw [List.flatMap_cons, ← List.append_assoc]
      rfl
  | .interrupted (.fault e) => rfl
  | .interrupted (.signal s) => rfl
  | .stopped => rfl

end Flow

namespace Engine

open StepFlow.Flow

section Loops

variable {registry : Registry} {limit : Nat} {frame : Frame} {rest : List Frame} {name : String}
  {gather : ItemRound → List Value} {fail : Fault → Fault}
  {loop : Nat → List Value → List Value → Action (List Value)}
  (hloop : ItemLoop name gather fail loop)

include hloop

/-- **A loop over items follows its rounds**, as long as none of them ends with a signal. -/
theorem itemLoop_follows (items : List Value) :
    ∀ (index : Nat) (acc : List Value) {c : Context}, c.frames = frame :: rest →
      (∀ s d, runItems (callWithin registry limit) frame.slots name frame.state index items c ≠
        some (.interrupted (.signal s), d)) →
      performWithin registry limit (loop index items acc) c =
        (runItems (callWithin registry limit) frame.slots name frame.state index items c).map
          fun p => (gathered gather fail acc.reverse p.1, p.2) := by
  induction items with
  | nil =>
      intro index acc c _ _
      rw [hloop.nil]
      show some (Except.ok acc.reverse, c) = some (.ok (acc.reverse ++ []), c)
      rw [List.append_nil]
  | cons item others ih =>
      intro index acc c hframes hsignals
      obtain ⟨after, hcons, hok, hfault⟩ := hloop.cons index item others acc
      rw [hcons, performWithin_ensureActive_bind]
      cases hc : c.cancelled with
      | true =>
          rw [runItems_of_cancelled hc]
          rfl
      | false =>
          rw [runItems_cons hc] at hsignals ⊢
          show performWithin registry limit
            (Action.trySlot name none (some (itemVars (some item) index)) >>= after) c = _
          rw [performWithin_trySlot_bind hframes]
          show Option.bind (runSlotFrom (callWithin registry limit) frame.slots name frame.state
            (itemVars (some item) index) c) _ = _
          match hslot : runSlotFrom (callWithin registry limit) frame.slots name frame.state
              (itemVars (some item) index) c with
          | none => rfl
          | some (.error (.signal s), e) =>
              rw [hslot] at hsignals
              exact (hsignals s e rfl).elim
          | some (.error (.fault f), e) =>
              show performWithin registry limit (after (.error (.fault f))) e = _
              rw [hfault]
              rfl
          | some (.ok last, e) =>
              rw [hslot] at hsignals
              show performWithin registry limit (after (.ok last)) e =
                Option.map _ (Option.map _ (runItems _ _ _ _ (index + 1) others e))
              -- the round leaves the frame of the step where it was
              obtain ⟨es, hes⟩ := runSlotFrom_evolves registry limit _ _ _ _ _ _ _ hslot
              rw [hok, ih (index + 1) _ (hes.frames_eq.trans hframes) fun s f hs => by
                  refine hsignals s f ?_
                  show Option.map _ (runItems _ _ _ _ (index + 1) others e) = _
                  rw [hs]
                  rfl,
                Option.map_map]
              congr 1
              funext p
              show (gathered _ _ _ p.1, p.2) = (gathered _ _ _ (p.1.cons _), p.2)
              rw [gathered_cons_round, List.reverse_append, List.reverse_reverse]

end Loops

end Engine

/-! ## §3. The two functions -/

namespace Flow

/-- What `foreach` finds in a round is what `parallel` has as the result of it, unless that is
null. -/
theorem found_eq_filter {site site' : CallSite} {path : String} (h : site.collect? = some path)
    (h' : site'.collect? = some path) (item : Value) (last vars : State) :
    found site item last vars = [taskResult site' last vars].filter (· ≠ .null) := by
  unfold found taskResult
  rw [h, h']
  show ((Roots.resolve ⟨last, vars⟩ path).bind Value.nonNull?).toList =
    [(Roots.resolve ⟨last, vars⟩ path).getD .null].filter (· ≠ .null)
  cases Roots.resolve ⟨last, vars⟩ path with
  | none => rfl
  | some v => cases v <;> rfl

theorem flatMap_found {site site' : CallSite} {path : String} (h : site.collect? = some path)
    (h' : site'.collect? = some path) (rounds : List ItemRound) :
    rounds.flatMap (fun r => found site r.item r.last r.vars) =
      (rounds.flatMap fun r => [taskResult site' r.last r.vars]).filter (· ≠ .null) := by
  rw [List.filter_flatMap]
  congr 1
  funext r
  exact found_eq_filter h h' r.item r.last r.vars

end Flow

namespace Engine

open StepFlow.Flow

variable {registry : Registry} {limit : Nat} {c d : Context}

theorem performWithin_foreach {input : State} {items : List Value}
    (hlist : Dict.get? input "list" = some (.arr items)) (hitems : items ≠ []) (site : CallSite) :
    performWithin registry limit (foreach input site) c =
      (performWithin registry limit (eachItem site 0 items [])
        (c.record (.noted (.flow (.loopStarted items.length))))).map
          fun p => (p.1.map fun found => .obj [("results", .arr found)], p.2) := by
  have hsource : itemsOf (itemSource input) = items := by
    simp [itemSource, Dict.contains, hlist, itemsOf]
  exact performWithin_foreach_items hsource hitems site c

theorem performWithin_parallel {input : State} {items : List Value}
    (htasks : Dict.get? input "tasks" = some (.arr items)) {site : CallSite}
    (hslot : site.hasSlot "tasks" = true) :
    performWithin registry limit (parallel input site) c =
      (performWithin registry limit (eachTask site 0 items []) c).map
        fun p => (p.1.map fun found => .obj [("results", .arr found)], p.2) := by
  have hsource : tasksOf input = items := by
    rw [tasksOf, htasks]
  rw [← performWithin_map]
  unfold parallel
  rw [if_pos hslot, hsource]
  rfl

/-- The entry contexts of two steps that start in one place differ quietly. -/
theorem entryContext_quiet (entry entry' : Entry) (vars : State) (index : Nat) (step step' : Step)
    (state : State) (c : Context) :
    (entryContext entry vars index step state c).Quiet
      (entryContext entry' vars index step' state c) := by
  have hcalled : ∀ step : Step, c.tick.Quiet
      (((c.tick.record (.stepStarted index step.call)).recordAll
        ((step.inputs.skippedInput ⟨state, vars⟩).map .spreadSkipped)).pushFrame
        ⟨step.slotMap, state, vars⟩).openScope := by
    intro step
    have hskipped : ∀ e ∈ (step.inputs.skippedInput ⟨state, vars⟩).map Event.spreadSkipped,
        e.logRecord? = none := by
      intro e he
      obtain ⟨v, -, rfl⟩ := List.mem_map.mp he
      rfl
    have hstarted := (Context.Quiet.record c.tick (e := .stepStarted index step.call) rfl).trans
      (.recordAll hskipped _)
    have hframed : c.tick.Quiet (((c.tick.record (.stepStarted index step.call)).recordAll
        ((step.inputs.skippedInput ⟨state, vars⟩).map .spreadSkipped)).pushFrame
        ⟨step.slotMap, state, vars⟩) := { hstarted with }
    exact hframed.trans (.openScope _)
  have htick := LogView.quiet_tick ((hcalled step).symm.trans (hcalled step'))
  exact ((Context.Quiet.record _ (e := .entered entry.id) rfl).symm.trans htick).trans
    (.record _ rfl)

end Engine

/-! ## §4. Agreement -/

namespace Flow

/-- A step that runs a sequence once for each item and collects by a path. -/
structure LoopStep (id key slot : String) (items : List Value) (steps : List Step) (path : String)
    (r : Roots) (step : Step) : Prop where
  call : step.call = id
  input : Dict.get? (step.inputs.input r) key = some (.arr items)
  slot : SlotMap.resolve step.slotMap slot = some steps
  collectPath : step.collectPath = some path

theorem LoopStep.collect? {id key slot : String} {items : List Value} {steps : List Step}
    {path : String} {r : Roots} {step : Step} (h : LoopStep id key slot items steps path r step)
    (hpath : Text.isBlankText path = false) (vars : State) :
    CallSite.collect? ⟨step.slotMap, vars, step.collectPath⟩ = some path := by
  rw [CallSite.collect?, h.collectPath]
  simp [hpath]

/-- How a loop over so many items and a loop over tasks end. -/
inductive Agrees (count : Nat) : Outcome Value → Outcome Value → Prop where
  /-- Both with results: one for each task, and those that are not null for the items. -/
  | done (rs : List Value) (hcount : rs.length = count) :
      Agrees count (.ok (.obj [("results", .arr (rs.filter (· ≠ .null)))]))
        (.ok (.obj [("results", .arr rs)]))
  /-- Both with the same flow error. -/
  | raised (e : FlowError) : Agrees count (.error (.fault (.flow e))) (.error (.fault (.flow e)))
  /-- Both with a failure of another kind, of which the tasks give the structured form: an
  unexpected error that says what the failure says, if that is anything. -/
  | failed {e : Fault} (hflow : ∀ f, e ≠ .flow f) :
      Agrees count (.error (.fault e)) (.error (.flow "unexpected_error"
        (if Text.isBlankText e.message then "Unexpected error" else e.message) none))

theorem agrees_of_fault (count : Nat) (e : Fault) :
    Agrees count (.error (.fault e)) (.error (.fault (.flow e.toFlowError))) := by
  cases e with
  | flow f => exact .raised f
  | _ => exact .failed nofun

/-- What the two functions make of the same rounds. -/
theorem agrees_of_rounds {site site' : CallSite} {path : String} (h : site.collect? = some path)
    (h' : site'.collect? = some path) {count : Nat} {x : RoundsEnd}
    (hcount : ∀ rounds, x = .complete rounds → rounds.length = count)
    (hsignal : ∀ s, x ≠ .interrupted (.signal s)) (hstopped : x ≠ .stopped) :
    Agrees count
      ((gathered (fun r => found site r.item r.last r.vars) id [] x).map
        fun found => .obj [("results", .arr found)])
      ((gathered (fun r => [taskResult site' r.last r.vars]) (fun e => .flow e.toFlowError) []
        x).map fun found => .obj [("results", .arr found)]) := by
  match x with
  | .complete rounds =>
      show Agrees count (.ok (.obj [("results", .arr (rounds.flatMap _))]))
        (.ok (.obj [("results", .arr (rounds.flatMap _))]))
      rw [flatMap_found h h']
      refine .done _ ?_
      rw [← List.map_eq_flatMap, List.length_map]
      exact hcount rounds rfl
  | .interrupted (.fault e) => exact agrees_of_fault count e
  | .interrupted (.signal s) => exact (hsignal s rfl).elim
  | .stopped => exact (hstopped rfl).elim

/-- How runs of the two end. -/
structure EndAlike (count : Nat) (p q : Outcome Value × Context) : Prop where
  logs : p.2.logs = q.2.logs
  cancelled : p.2.cancelled = q.2.cancelled
  /-- They agree, or the run was cancelled between two rounds and both say so. -/
  outcome : Agrees count p.1 q.1 ∨
    (p.2.cancelled = true ∧ p.1 = .error (.fault .cancelled) ∧ q.1 = .error (.fault .cancelled))

end Flow

/-- Anything may come up but the fault of a cancelled run. -/
def Terms.undisturbed : Terms where
  faults e := e ≠ .cancelled
  total := False
  flow _ := nofun
  invalidInput _ := nofun
  json _ := nofun

/-- Anything goes; it is as if a loop were around every step. -/
def Discipline.anything : Discipline .undisturbed where
  admits _ inLoop _ := inLoop = true
  registered _ _ := nofun
  placed h _ := h
  inherited := by
    intro _ inLoop _ h _ _ _ _
    rw [h]
    rfl
  starts := nofun
  bounded := nofun

namespace Engine

open StepFlow.Flow

variable {limit : Nat} {c d : Context}

/-- No standard function cancels a run. -/
theorem callStep_undisturbed (hc : c.cancelled = false) (hclock : c.clock = none) {vars : State}
    {index : Nat} {step : Step} {state : State} {r : Outcome Value}
    (h : callStep (callWithin .standard limit) vars index step state c = some (r, d)) :
    d.cancelled = false := by
  have hadmits : Discipline.anything.admits limit true step := rfl
  have hfits : c.Fits (Terms.undisturbed.faults .cancelled) c.frames := by
    refine ⟨rfl, fun hflag => ?_, fun hsome => (hsome hclock).elim⟩
    rw [hc] at hflag
    cases hflag
  have hcall := Discipline.anything.callWithin_ensures limit hadmits c.frames state vars
  obtain ⟨-, hend⟩ := callStep_ensures hcall c hfits
  cases hd : d.cancelled with
  | false => rfl
  | true => exact ((hend r d h).2.1.cancelled hd rfl).elim

/-- The two loops agree when they run the same sequence from contexts that correspond. -/
theorem eachItem_agrees_with_eachTask (view : LogView) {slots slots' : SlotMap} {steps : List Step}
    {state vars vars' : State} {rest rest' : List Frame}
    (hframes : c.frames = ⟨slots, state, vars⟩ :: rest)
    (hframes' : d.frames = ⟨slots', state, vars'⟩ :: rest')
    (hslot : SlotMap.resolve slots bodySlot = some steps)
    (hslot' : SlotMap.resolve slots' "tasks" = some steps) {site site' : CallSite} {path : String}
    (hcollect : site.collect? = some path) (hcollect' : site'.collect? = some path)
    (hview : view.Relates c d) {items : List Value}
    (hsignals : ∀ s e, runItems (callWithin .standard limit) slots bodySlot state 0 items c ≠
      some (.interrupted (.signal s), e)) :
    Option.Rel (fun p q => view.Relates p.2 q.2 ∧
        (Agrees items.length (p.1.map fun found => .obj [("results", .arr found)])
            (q.1.map fun found => .obj [("results", .arr found)]) ∨
          (p.2.cancelled = true ∧ p.1 = .error (.fault .cancelled) ∧
            q.1 = .error (.fault .cancelled))))
      (performWithin .standard limit (eachItem site 0 items []) c)
      (performWithin .standard limit (eachTask site' 0 items []) d) := by
  have hrounds := runItems_corresponds view limit hslot hslot' hview state items
  have hsignals' : ∀ s e, runItems (callWithin .standard limit) slots' "tasks" state 0 items d ≠
      some (.interrupted (.signal s), e) := by
    intro s e htasks
    rw [htasks] at hrounds
    match hrun : runItems (callWithin .standard limit) slots bodySlot state 0 items c, hrounds with
    | some (_, f), .some ⟨rfl, _⟩ => exact hsignals s f hrun
  rw [itemLoop_follows (eachItem_isItemLoop site) items 0 [] hframes hsignals,
    itemLoop_follows (eachTask_isItemLoop site') items 0 [] hframes' hsignals']
  dsimp only at hrounds ⊢
  generalize hrun : runItems (callWithin .standard limit) slots bodySlot state 0 items c = rounds
    at hrounds ⊢
  generalize runItems (callWithin .standard limit) slots' "tasks" state 0 items d = rounds'
    at hrounds ⊢
  cases hrounds with
  | none => exact .none
  | @some p q hpq =>
      obtain ⟨x, e⟩ := p
      obtain ⟨y, f⟩ := q
      obtain ⟨rfl, hend⟩ := hpq
      refine .some ⟨hend, ?_⟩
      by_cases hstopped : x = .stopped
      · subst hstopped
        exact .inr ⟨cancelled_of_runItems hrun, rfl, rfl⟩
      · refine .inl (agrees_of_rounds hcollect hcollect' (fun found hfound => ?_) (fun s hs => ?_)
          hstopped)
        · subst hfound
          exact length_of_runItems hrun
        · subst hs
          exact hsignals s e hrun

/-- **A loop over items and a loop over tasks agree.**  Two steps over the standard registry,
one calling `foreach` and one calling `parallel`, have the same items, the same sequence and the
same collect path, and may start together with their functions.  If no round of the first ends
with a signal, then either both end or none does, with the same log records.  Both have results,
one for each task, and those of the first are these without the nulls; or both fail, the second
with the structured form; or the run is cancelled between two rounds, which both say.  A run
without a clock is not cancelled. -/
theorem foreach_agrees_with_parallel {items : List Value} {steps : List Step} {path : String}
    {state vars : State} {each tasks : Step}
    (heach : LoopStep foreachId "list" bodySlot items steps path ⟨state, vars⟩ each)
    (htasks : LoopStep parallelId "tasks" "tasks" items steps path ⟨state, vars⟩ tasks)
    (hitems : items ≠ []) (hsteps : steps ≠ []) (hpath : Text.isBlankText path = false)
    (hc : c.mayStart 2 = true) (index : Nat)
    (hsignals : ∀ s d, runItems (callWithin .standard limit) each.slotMap bodySlot state 0 items
      ((entryContext ⟨foreachId, [], foreach⟩ vars index each state c).record
        (.noted (.flow (.loopStarted items.length)))) ≠ some (.interrupted (.signal s), d)) :
    Option.Rel (EndAlike items.length)
        (callStep (callWithin .standard (limit + 1)) vars index each state c)
        (callStep (callWithin .standard (limit + 1)) vars index tasks state c) ∧
      (c.clock = none → ∀ r d,
        callStep (callWithin .standard (limit + 1)) vars index each state c = some (r, d) →
        d.cancelled = false) := by
  refine ⟨?_, fun hclock r d => callStep_undisturbed (Context.not_cancelled_of_mayStart hc) hclock⟩
  have hget : Registry.standard.get? each.call = some ⟨foreachId, [], foreach⟩ := by
    rw [heach.call]
    rfl
  have hget' : Registry.standard.get? tasks.call = some ⟨parallelId, [], parallel⟩ := by
    rw [htasks.call]
    rfl
  have hhas : CallSite.hasSlot ⟨tasks.slotMap, vars, tasks.collectPath⟩ "tasks" = true := by
    simp [CallSite.hasSlot, SlotMap.has, htasks.slot, hsteps]
  let entered := entryContext ⟨foreachId, [], foreach⟩ vars index each state c
  let told := entered.record (.noted (.flow (.loopStarted items.length)))
  let entered' := entryContext ⟨parallelId, [], parallel⟩ vars index tasks state c
  have hframes : told.frames = ⟨each.slotMap, state, vars⟩ :: c.frames :=
    entryContext_frames ⟨foreachId, [], foreach⟩ vars index each state c
  have hframes' : entered'.frames = ⟨tasks.slotMap, state, vars⟩ :: c.frames :=
    entryContext_frames ⟨parallelId, [], parallel⟩ vars index tasks state c
  have hquiet : told.Quiet entered' :=
    (Context.Quiet.record entered rfl).symm.trans
      (entryContext_quiet _ _ vars index each tasks state c)
  -- the step has opened one scope over those of `c`
  let view := LogView.same told.logLevel c.inner c.inner
  have hinner : told.inner = [] :: c.inner :=
    entryContext_inner ⟨foreachId, [], foreach⟩ vars index each state c
  have hinner' : entered'.inner = [] :: c.inner :=
    entryContext_inner ⟨parallelId, [], parallel⟩ vars index tasks state c
  have hview : view.Relates told entered' := LogView.same_relates hquiet ⟨1, hinner, hinner'⟩
  have hcollect := heach.collect? hpath vars
  have hcollect' := htasks.collect? hpath vars
  rw [callStep_of_mayStart hget hc, callStep_of_mayStart hget' hc,
    performWithin_foreach heach.input hitems, performWithin_parallel htasks.input hhas,
    Option.map_map, Option.map_map]
  have hloops := eachItem_agrees_with_eachTask view hframes hframes' heach.slot htasks.slot
    hcollect hcollect' hview hsignals
  show Option.Rel _ (Option.map _ (performWithin .standard limit (eachItem _ 0 items []) told))
    (Option.map _ (performWithin .standard limit (eachTask _ 0 items []) entered'))
  generalize performWithin .standard limit (eachItem _ 0 items []) told = ends at hloops ⊢
  generalize performWithin .standard limit (eachTask _ 0 items []) entered' = ends' at hloops ⊢
  cases hloops with
  | none => exact .none
  | @some p q h =>
      obtain ⟨hend, houtcome⟩ := h
      obtain ⟨opened, hp, hq⟩ := hend.scopes
      -- closing what the steps opened is quiet on both sides
      have hc₀ : c.Over c.inner 0 := rfl
      have hclosed : p.2.Quiet (p.2.closeTo c.depth) := (Context.Quiet.closeTo hc₀ hp).1
      have hclosed' : q.2.Quiet (q.2.closeTo c.depth) := (Context.Quiet.closeTo hc₀ hq).1
      have hends := (hclosed.symm.trans hend.quiet_of_same).trans hclosed'
      refine .some ⟨hends.logs.symm, hends.cancelled.symm, ?_⟩
      rcases houtcome with hagrees | ⟨hcancelled, hstopped, hstopped'⟩
      · refine .inl ?_
        show Agrees _ ((p.1.map _).map _) ((q.1.map _).map _)
        rw [map_restrict_of_no_outputs rfl, map_restrict_of_no_outputs rfl]
        exact hagrees
      · refine .inr ⟨hclosed.cancelled.trans hcancelled, ?_, ?_⟩
        · show (p.1.map _).map _ = _
          rw [hstopped]
          rfl
        · show (q.1.map _).map _ = _
          rw [hstopped']
          rfl

/-- Set `v` to the item. -/
def rememberItem : List Step :=
  [⟨Builtin.setId, ⟨[], [("v", .required (.str "$slot.item"))]⟩, ⟨[⟨.str "$", none, false⟩], []⟩,
    [], none, none⟩]

/-- Remember each item and collect it. -/
def rememberEach : Step :=
  ⟨foreachId, ⟨[], [("list", .required (.arr threeItems))]⟩, .empty, [], some rememberItem,
    some "$.v"⟩

/-- The same for tasks. -/
def rememberTasks : Step :=
  ⟨parallelId, ⟨[], [("tasks", .required (.arr threeItems))]⟩, .empty, [("tasks", rememberItem)],
    none, some "$.v"⟩

/-- The null is left out of two results and stands among three. -/
theorem rememberEach_agrees : ∃ p q,
    callStep (callWithin .standard 2) [] 0 rememberEach [] (.start .info false none) = some p ∧
      callStep (callWithin .standard 2) [] 0 rememberTasks [] (.start .info false none) =
        some q ∧
      p.1 = .ok (.obj [("results", .arr [.str "a", .str "b"])]) ∧
      q.1 = .ok (.obj [("results", .arr [.str "a", .null, .str "b"])]) ∧
      EndAlike 3 p q ∧ p.2.cancelled = false := by
  have hends : ∃ rounds e p q, runItems (callWithin .standard 1) rememberEach.slotMap bodySlot [] 0
      threeItems ((entryContext ⟨foreachId, [], foreach⟩ [] 0 rememberEach []
        (.start .info false none)).record (.noted (.flow (.loopStarted 3)))) =
          some (.complete rounds, e) ∧
      callStep (callWithin .standard 2) [] 0 rememberEach [] (.start .info false none) = some p ∧
      callStep (callWithin .standard 2) [] 0 rememberTasks [] (.start .info false none) = some q ∧
      p.1 = .ok (.obj [("results", .arr [.str "a", .str "b"])]) ∧
      q.1 = .ok (.obj [("results", .arr [.str "a", .null, .str "b"])]) :=
    ⟨_, _, _, _, rfl, rfl, rfl, rfl, rfl⟩
  obtain ⟨rounds, e, p, q, hrounds, heach, htasks, hresult, hresult'⟩ := hends
  have heach' : LoopStep foreachId "list" bodySlot threeItems rememberItem "$.v" ⟨[], []⟩
      rememberEach := ⟨rfl, rfl, rfl, rfl⟩
  have htasks' : LoopStep parallelId "tasks" "tasks" threeItems rememberItem "$.v" ⟨[], []⟩
      rememberTasks := ⟨rfl, rfl, rfl, rfl⟩
  have hpath : Text.isBlankText "$.v" = false := by decide
  have hc : (Context.start .info false none).mayStart 2 = true := rfl
  obtain ⟨hagrees, hactive⟩ := foreach_agrees_with_parallel heach' htasks' (by decide) (by decide)
    hpath hc 0 fun s d hs => by cases hrounds.symm.trans hs
  rw [heach, htasks] at hagrees
  cases hagrees with
  | some h => exact ⟨p, q, heach, htasks, hresult, hresult', h, hactive rfl p.1 p.2 heach⟩

end Engine

end StepFlow
