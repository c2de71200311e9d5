import StepFlow.Proofs.ConditionalLoop
import StepFlow.Proofs.StateGrowth

/-
  StepFlow.Proofs.LoopSteering
  ────────────────────────────
  What steers a loop on a condition, and what its slots are told.

  The condition slot works on a copy of the loop state, and the whole state it ends
  with is taken as its answer.  So what the loop state holds under the names of the
  answer has a say as well, unless the slot writes there: `condition_steers` gives the
  body's start and the decision in terms of both.

  The slot variables of a round are made before the condition runs, and the body gets
  the same ones.  `loop_slot_variables`: every slot is told the right index, and the
  condition and the `else` slot are told the state that they start from, but the body
  only if the condition has not put another state in place.
-/

namespace StepFlow

/-! ## §1. Reading an answer -/

namespace Flow

variable {output : State}

/-- What a state holds under the name by which a condition replaces the loop state. -/
def ownState (s : State) : Option State :=
  (Dict.get? s "state").bind Value.object?

/-- No state holds itself. -/
theorem ne_of_ownState {s t : State} (h : ownState s = some t) : t ≠ s := by
  rintro rfl
  obtain ⟨v, hget, hobject⟩ := Option.bind_eq_some_iff.mp h
  cases v with
  | obj members =>
      cases hobject
      -- what is under a key is smaller than the whole
      have hsmaller := List.sizeOf_lt_of_mem (Dict.mem_of_get? hget)
      simp only [Prod.mk.sizeOf_spec, Value.obj.sizeOf_spec] at hsmaller
      omega
  | _ => cases hobject

theorem getD_ownState_eq_iff (s : State) : (ownState s).getD s = s ↔ ownState s = none := by
  constructor
  · intro h
    cases hown : ownState s with
    | none => rfl
    | some t =>
        rw [hown] at h
        exact (ne_of_ownState hown h).elim
  · intro h
    rw [h]
    rfl

/-- What decides in an answer. -/
def deciding (output : State) : Option Value :=
  ((["continue", "cond", "value"].find? (Dict.contains output)).bind (Dict.get? output)).bind
    Value.nonNull?

/-- An answer decides by one of its values, and puts an object in place of the loop state by
another. -/
theorem verdict_eq (output : State) :
    verdict output = match deciding output with
      | some v => .ok (v.isTruthy, ownState output)
      | none =>
          if output.isEmpty then .ok (false, ownState output)
          else .error (.flow "flow_while_invalid_condition"
            "condition slot must return a boolean or object with cond/value" none) := by
  unfold verdict ownState
  match Dict.get? output "state" with
  | none => rfl
  | some .null => rfl
  | some (.bool _) => rfl
  | some (.num _) => rfl
  | some (.str _) => rfl
  | some (.arr _) => rfl
  | some (.obj _) => rfl

theorem replacement_of_verdict {proceed : Bool} {replacement : Option State}
    (h : verdict output = .ok (proceed, replacement)) : replacement = ownState output := by
  rw [verdict_eq] at h
  split at h
  · cases h
    rfl
  · split at h
    · cases h
      rfl
    · cases h

/-- With something under `cond`, only `continue` comes before it. -/
theorem deciding_of_cond {v : Value} (hcond : Dict.get? output "cond" = some v) :
    deciding output = ((Dict.get? output "continue").getD v).nonNull? := by
  unfold deciding
  cases hcontinue : Dict.get? output "continue" with
  | none => simp [List.find?, Dict.contains, hcontinue, hcond]
  | some w => simp [List.find?, Dict.contains, hcontinue]

/-- With something under `cond`, an answer is to go on exactly if that is truthy, or what stands
under `continue` if there is something. -/
theorem verdict_goes_on_iff {v : Value} (hcond : Dict.get? output "cond" = some v) :
    (∃ replacement, verdict output = .ok (true, replacement)) ↔
      ((Dict.get? output "continue").getD v).isTruthy = true := by
  have hnonempty : output.isEmpty = false := by
    cases output with
    | nil => cases hcond
    | cons => rfl
  rw [verdict_eq, deciding_of_cond hcond, hnonempty]
  -- a null decides nothing, and is not truthy either
  generalize (Dict.get? output "continue").getD v = w
  by_cases hw : w = .null
  · subst hw
    simp [Value.nonNull?, Value.isTruthy]
  · have hkept : w.nonNull? = some w := by
      cases w with
      | null => exact (hw rfl).elim
      | _ => rfl
    rw [hkept]
    simp

end Flow

/-! ## §2. What a slot leaves alone -/

/-- The sequence that the frame on top has under a name. -/
def Context.slotSteps (c : Context) (name : String) : List Step :=
  (c.frames.head?.bind fun frame => SlotMap.resolve frame.slots name).getD []

namespace Engine

open StepFlow.Flow

variable {registry : Registry} {limit : Nat} {c d : Context}

/-- A slot that ends with a state has run its sequence. -/
theorem exists_runSteps_of_runSlot {caller : Caller} {name : String} {state vars last : State}
    (h : runSlot caller name (some state) (some vars) c = some (.ok last, d)) :
    ∃ e f, runSteps caller (c.slotSteps name) state vars e = some (.ok last, f) := by
  cases hframes : c.frames with
  | nil =>
      rw [runSlot_of_cannot_start (.inl hframes)] at h
      cases h
  | cons frame rest =>
      rw [runSlot_eq_runSlotFrom hframes, runSlotFrom, Run.unlessCancelled_apply] at h
      split at h
      · cases h
      · obtain ⟨_, e, -, hrun⟩ := Run.bind_eq_some.mp h
        obtain ⟨f, hsteps, -⟩ := Run.inScope_eq_some.mp hrun
        refine ⟨e.openScope, f, ?_⟩
        rw [Context.slotSteps, hframes]
        exact hsteps

/-- What none of its steps may write, a slot leaves as it was. -/
theorem SlotRun.Ran.get?_eq {run : SlotRun} {output : State} {key : String}
    (h : run.Ran (callWithin registry limit)) (houtput : run.outcome = .ok output)
    (hkey : ∀ step ∈ run.before.slotSteps run.name, step.outputs.mayWrite key = false) :
    Dict.get? output key = Dict.get? run.state key := by
  unfold SlotRun.Ran at h
  rw [houtput] at h
  obtain ⟨e, f, hsteps⟩ := exists_runSteps_of_runSlot h
  have hgrows := runStepsFrom_growsBy (callWithin_evolves registry limit) run.vars _ hsteps
  refine hgrows.get? key ?_
  rintro ⟨step, hstep, hwrite⟩
  rw [hkey step hstep] at hwrite
  cases hwrite

end Engine

/-! ## §3. Steering -/

namespace Flow

open StepFlow.Engine

/-- How a round goes on from a condition with these steps that ended with a state. -/
structure Steered (steps : List Step) (round : BegunRound) (output : State) (after : Context) :
    Prop where
  /-- Unless a step may write `state`, the body starts from the object that the loop state has
  there, and only if there is none from the loop state. -/
  start : (∀ step ∈ steps, step.outputs.mayWrite "state" = false) → ∀ body ∈ round.body,
    body.state = (ownState round.condition.state).getD round.condition.state ∧
      (body.state = round.condition.state ↔ ownState round.condition.state = none)
  /-- Unless a step may write `continue`, what the loop state has there decides, or else what is
  under `cond` at the end. -/
  decision : (∀ step ∈ steps, step.outputs.mayWrite "continue" = false) →
    ∀ v, Dict.get? output "cond" = some v →
      (round.body.isSome = true ↔ after.cancelled = false ∧
        ((Dict.get? round.condition.state "continue").getD v).isTruthy = true)

variable {registry : Registry} {limit : Nat} {max : Option Nat} {p : LoopPoint} {c d : Context}

/-- What an answer leads to: the body starts if the run is not cancelled and the answer is to go
on, and then from the state that the answer says. -/
theorem Begins.body_of_answer {caller : Caller} {round : BegunRound} {output : State}
    (h : Begins caller max p c round) (hanswer : round.answer = some (.ok output, d)) :
    round.condition = conditionStart p c ∧ (conditionRun p c (.ok output) d).Ran caller ∧
      (round.body.isSome = true ↔
        d.cancelled = false ∧ ∃ replacement, verdict output = .ok (true, replacement)) ∧
      ∀ start ∈ round.body, start.state = (ownState output).getD p.state := by
  cases h with
  | asking hc hmax => cases hanswer
  | staying hc hmax hrun hstay =>
      cases hanswer
      refine ⟨rfl, hrun, ⟨nofun, fun ⟨hd, replacement, hverdict⟩ => ?_⟩, nofun⟩
      exact (hstay output replacement rfl hd hverdict).elim
  | @entering _ replacement _ hc hmax hrun hd hverdict =>
      cases hanswer
      refine ⟨rfl, hrun, by simp [hd, hverdict], fun start hstart => ?_⟩
      cases hstart
      rw [← replacement_of_verdict hverdict]
      rfl

/-- One round is steered so. -/
theorem Begins.steered {round : BegunRound} (h : Begins (callWithin registry limit) max p c round)
    {output : State} (hanswer : round.answer = some (.ok output, d)) :
    Steered (c.slotSteps "condition") round output d := by
  obtain ⟨hcondition, hrun, hsome, hstate⟩ := h.body_of_answer hanswer
  -- under a key that is not written, the answer is the loop state's
  have hkept : ∀ key, (∀ step ∈ c.slotSteps "condition", step.outputs.mayWrite key = false) →
      Dict.get? output key = Dict.get? p.state key :=
    fun key hkey => SlotRun.Ran.get?_eq hrun rfl hkey
  constructor
  · rw [hcondition]
    intro hkey start hbody
    have hstart : start.state = (ownState p.state).getD p.state := by
      rw [hstate start hbody, ownState, hkept "state" hkey]
      rfl
    refine ⟨hstart, ?_⟩
    rw [hstart]
    exact getD_ownState_eq_iff p.state
  · rw [hcondition]
    intro hkey v hcond
    show round.body.isSome = true ↔ d.cancelled = false ∧
      ((Dict.get? p.state "continue").getD v).isTruthy = true
    rw [hsome, verdict_goes_on_iff hcond, hkept "continue" hkey]

end Flow

namespace Engine

open StepFlow.Flow

variable {registry : Registry} {limit : Nat} {max : Option Nat} {c : Context}
  {input state : State} {site : CallSite}

/-- **What steers a loop on a condition.**  A run of `whileLoop` that ends consists of rounds that
it reaches, and in every round that is reached, whether or not the run or the body ever ends, an
answer of the condition is taken together with what the loop state holds under the same names.
If no step of the condition may write `state`, the body starts from the loop state exactly if that
has no object there; if none may write `continue`, what the loop state has there decides, and `cond`
only if there is nothing. -/
theorem condition_steers (hstate : loopState (Dict.get? input "state") = .ok state)
    (hmax : roundLimit (Dict.get? input "maxIterations") = .ok max) :
    (∀ r d, performWithin registry limit (whileLoop input site) c = some (r, d) →
        ∃ rounds other, LoopRun (callWithin registry limit) max site state c rounds other r d ∧
          ∀ k round, rounds[k]? = some round →
            Reaches (callWithin registry limit) max ⟨state, 0⟩ c k round.begun) ∧
      ∀ k round, Reaches (callWithin registry limit) max ⟨state, 0⟩ c k round →
        ∀ output d, round.answer = some (.ok output, d) →
          Steered (c.slotSteps "condition") round output d := by
  refine ⟨fun r d h => exists_loopRun hstate hmax h, fun k round hreaches output d hanswer => ?_⟩
  obtain ⟨t, e, -, hframes, hround⟩ := hreaches.round_at
  have hsteered := hround.steered hanswer
  rw [Context.slotSteps, hframes] at hsteered
  exact hsteered

/-- With neither name in its state, a loop is steered by what its condition writes. -/
theorem signalLoop_steered :
    ∃ round body, Reaches (callWithin .standard 3) none ⟨[("n", .null)], 0⟩ (signalContext breakId)
        0 round ∧ round.body = some body ∧ body.state = [("n", .null)] := by
  have hruns : ∃ output d, runSlot (callWithin .standard 3) "condition" (some [("n", .null)])
        (some [("index", .int 0), ("state", .obj [("n", .null)])]) (signalContext breakId) =
          some (.ok output, d) ∧
      d.cancelled = false ∧ verdict output = .ok (true, none) := ⟨_, _, rfl, rfl, rfl⟩
  obtain ⟨output, d, hrun, hd, hverdict⟩ := hruns
  have hreaches : Reaches (callWithin .standard 3) none ⟨[("n", .null)], 0⟩ (signalContext breakId)
      0 _ := Begins.reaches (.entering rfl rfl hrun hd hverdict)
  obtain ⟨-, hsteered⟩ := @condition_steers .standard 3 none (signalContext breakId)
    [("state", .obj [("n", .null)])] [("n", .null)] ⟨signalSlots breakId, [], none⟩ rfl rfl
  obtain ⟨-, hstart⟩ := (hsteered 0 _ hreaches output d rfl).start (by decide) _ rfl
  exact ⟨_, _, hreaches, rfl, hstart.mpr rfl⟩

/-- A condition that writes neither `state` nor `continue` and is met: a loop state with an object
under `state` is lost to that object, and one with a false `continue` never sees the body. -/
theorem ownKeys_steer :
    (∀ step ∈ (signalContext breakId).slotSteps "condition",
        step.outputs.mayWrite "state" = false ∧ step.outputs.mayWrite "continue" = false) ∧
      (∃ round output d body,
        Reaches (callWithin .standard 3) none ⟨[("state", .obj [])], 0⟩ (signalContext breakId) 0
          round ∧
        round.answer = some (.ok output, d) ∧ round.condition.state = [("state", .obj [])] ∧
        round.body = some body ∧ body.state = []) ∧
      ∃ round output d,
        Reaches (callWithin .standard 3) none ⟨[("continue", .bool false)], 0⟩
          (signalContext breakId) 0 round ∧
        round.answer = some (.ok output, d) ∧ Dict.get? output "cond" = some (.bool true) ∧
        d.cancelled = false ∧ round.body = none := by
  refine ⟨by decide, ?_, ?_⟩
  · have hruns : ∃ output d,
        runSlot (callWithin .standard 3) "condition" (some [("state", .obj [])])
          (some [("index", .int 0), ("state", .obj [("state", .obj [])])])
          (signalContext breakId) = some (.ok output, d) ∧
        d.cancelled = false ∧ verdict output = .ok (true, some []) := ⟨_, _, rfl, rfl, rfl⟩
    obtain ⟨output, d, hrun, hd, hverdict⟩ := hruns
    exact ⟨_, output, d, _, Begins.reaches (.entering rfl rfl hrun hd hverdict), rfl, rfl, rfl, rfl⟩
  · have hruns : ∃ output d,
        runSlot (callWithin .standard 3) "condition" (some [("continue", .bool false)])
          (some [("index", .int 0), ("state", .obj [("continue", .bool false)])])
          (signalContext breakId) = some (.ok output, d) ∧
        d.cancelled = false ∧ verdict output = .ok (false, none) ∧
        Dict.get? output "cond" = some (.bool true) := ⟨_, _, rfl, rfl, rfl, rfl⟩
    obtain ⟨output, d, hrun, hd, hverdict, hcond⟩ := hruns
    have hbegins : Begins (callWithin .standard 3) none ⟨[("continue", .bool false)], 0⟩
        (signalContext breakId) _ := .staying rfl rfl hrun fun other replacement hother _ hgoes => by
      cases hother
      cases hverdict.symm.trans hgoes
    exact ⟨_, output, d, hbegins.reaches, rfl, hcond, hd, rfl⟩

end Engine

/-! ## §4. Slot variables -/

namespace Flow

/-- What the slots of a round are told that comes after so many others. -/
structure Informed (k : Nat) (round : BegunRound) : Prop where
  /-- The condition is told how many, and the state that it starts from. -/
  condition : round.condition.vars = [("index", .int k), ("state", .obj round.condition.state)]
  /-- The body is told the same, and starts from that state only if the condition has left it in
  place. -/
  body : ∀ body ∈ round.body,
    body.vars = [("index", .int k), ("state", .obj round.condition.state)] ∧
      ∃ output d, round.answer = some (.ok output, d) ∧
        body.state = (ownState output).getD round.condition.state ∧
        (Dict.get? body.vars "state" = some (.obj body.state) ↔
          ownState output = none ∨ ownState output = some round.condition.state)

/-- One round tells its slots so. -/
theorem Begins.informed {caller : Caller} {max : Option Nat} {p : LoopPoint} {c : Context}
    {round : BegunRound} (h : Begins caller max p c round) : Informed p.iterations round := by
  cases h with
  | asking hc hmax => exact ⟨rfl, nofun⟩
  | staying hc hmax hrun hstay => exact ⟨rfl, nofun⟩
  | @entering output replacement d hc hmax hrun hd hverdict =>
      refine ⟨rfl, fun start hbody => ?_⟩
      cases hbody
      refine ⟨rfl, output, d, rfl, ?_, ?_⟩
      · rw [← replacement_of_verdict hverdict]
        rfl
      · rw [← replacement_of_verdict hverdict]
        show some (Value.obj p.state) = some (.obj (replacement.getD p.state)) ↔
          replacement = none ∨ replacement = some p.state
        cases replacement with
        | none => simp
        | some t => simp [eq_comm]

end Flow

namespace Engine

open StepFlow.Flow

variable {registry : Registry} {limit : Nat} {max : Option Nat} {c : Context}
  {input state : State} {site : CallSite}

/-- **What the slots of a loop are told.**  A run of `whileLoop` that ends consists of rounds that
it reaches, and perhaps of an `else` slot.  In every round that is reached, whether or not the run
or one of its slots ever ends, the condition and the body are told the number of rounds before it.
The condition is told the state that it starts from; so is the body exactly if the condition has
not put another state in place.  The `else` slot is told the state that it starts from and the
index -1. -/
theorem loop_slot_variables (hstate : loopState (Dict.get? input "state") = .ok state)
    (hmax : roundLimit (Dict.get? input "maxIterations") = .ok max) :
    (∀ r d, performWithin registry limit (whileLoop input site) c = some (r, d) →
        ∃ rounds other, LoopRun (callWithin registry limit) max site state c rounds other r d ∧
          (∀ k round, rounds[k]? = some round →
            Reaches (callWithin registry limit) max ⟨state, 0⟩ c k round.begun) ∧
          ∀ run ∈ other, StartsElse (callWithin registry limit) max site ⟨state, 0⟩ c run.start) ∧
      (∀ k round, Reaches (callWithin registry limit) max ⟨state, 0⟩ c k round →
        Informed k round) ∧
      ∀ start, StartsElse (callWithin registry limit) max site ⟨state, 0⟩ c start →
        start.vars = [("index", .int (-1)), ("state", .obj start.state)] := by
  refine ⟨fun r d h => ?_, fun k round hreaches => ?_, ?_⟩
  · obtain ⟨rounds, other, hrun, hreaches⟩ := exists_loopRun hstate hmax h
    refine ⟨rounds, other, hrun, hreaches, fun run hother => ?_⟩
    obtain ⟨x, e, hloop, hfinished⟩ := hrun
    cases hfinished with
    | otherwise helse _ | failed helse _ =>
        cases hother
        exact ⟨rounds, _, e, hloop, helse, rfl⟩
    | _ => cases hother
  · -- a round has as many bodies behind it as rounds
    obtain ⟨t, e, hcount, -, hround⟩ := hreaches.round_at
    have hinformed := hround.informed
    rw [hcount, Nat.zero_add] at hinformed
    exact hinformed
  · rintro start ⟨rounds, last, d, -, -, rfl⟩
    rfl

/-- In its second round, a loop whose condition leaves the state alone tells both slots what they
start from. -/
theorem signalLoop_informed :
    ∃ round body, Reaches (callWithin .standard 3) none ⟨[], 0⟩ (signalContext continueId) 1 round ∧
      round.body = some body ∧
      round.condition.vars = [("index", .int 1), ("state", .obj round.condition.state)] ∧
      body.vars = [("index", .int 1), ("state", .obj body.state)] := by
  have hruns : ∃ d output e, performWithin .standard 3 (whileRound none ⟨[], 0⟩)
        (signalContext continueId) = some (.ok (.inl ⟨[], 1⟩), d) ∧
      d.cancelled = false ∧
      runSlot (callWithin .standard 3) "condition" (some [])
        (some [("index", .int 1), ("state", .obj [])]) d = some (.ok output, e) ∧
      e.cancelled = false ∧ verdict output = .ok (true, none) :=
    ⟨_, _, _, rfl, rfl, rfl, rfl, rfl⟩
  obtain ⟨d, output, e, hfirst, hd, hrun, he, hverdict⟩ := hruns
  obtain ⟨first, hfirst⟩ := exists_round hfirst
  obtain ⟨first, rfl, -⟩ := hfirst.of_inl
  have hsecond : Reaches (callWithin .standard 3) none ⟨[], 1⟩ d 0 _ :=
    Begins.reaches (.entering hd rfl hrun he hverdict)
  have hreaches := hsecond.of_next hfirst
  obtain ⟨-, hinformed, -⟩ := @loop_slot_variables .standard 3 none (signalContext continueId) [] []
    ⟨signalSlots continueId, [], none⟩ rfl rfl
  obtain ⟨hcondition, hbodies⟩ := hinformed 1 _ hreaches
  obtain ⟨hvars, -⟩ := hbodies _ rfl
  exact ⟨_, _, hreaches, rfl, hcondition, hvars⟩

/-- The slots of a loop whose condition is met and puts another state in place. -/
def replacingSlots : SlotMap :=
  [("condition", [⟨Builtin.setId,
      ⟨[], [("cond", .required (.bool true)),
        ("state", .required (.obj [("done", .bool true)]))]⟩,
      ⟨[⟨.str "$", none, false⟩], []⟩, [], none, none⟩]),
    (bodySlot, [.ofCall breakId])]

/-- The body starts from the new state and is told the old one. -/
theorem replacingLoop_misinforms :
    ∃ round body, Reaches (callWithin .standard 3) none ⟨[("done", .bool false)], 0⟩
        ((Context.start .info false none).pushFrame ⟨replacingSlots, [], []⟩) 0 round ∧
      round.body = some body ∧ body.state = [("done", .bool true)] ∧
      Dict.get? body.vars "state" = some (.obj [("done", .bool false)]) := by
  have hruns : ∃ output d,
      runSlot (callWithin .standard 3) "condition" (some [("done", .bool false)])
        (some [("index", .int 0), ("state", .obj [("done", .bool false)])])
        ((Context.start .info false none).pushFrame ⟨replacingSlots, [], []⟩) =
          some (.ok output, d) ∧
      d.cancelled = false ∧ verdict output = .ok (true, some [("done", .bool true)]) :=
    ⟨_, _, rfl, rfl, rfl⟩
  obtain ⟨output, d, hrun, hd, hverdict⟩ := hruns
  exact ⟨_, _, Begins.reaches (.entering rfl rfl hrun hd hverdict), rfl, rfl, rfl⟩

end Engine

end StepFlow
