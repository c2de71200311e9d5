import StepFlow.Builtin
import StepFlow.Proofs.Performing

/-
  StepFlow.Proofs.ConditionalLoop
  ───────────────────────────────
  The rounds of a loop on a condition.

  `whileLoop` runs the condition slot and the body in turns.  `Judged` and `Round`
  are the rules for one round: what the condition slot ends with decides whether the
  body runs, and from which state.  A round also tells which slots it has run
  (`LoopRound`).  `GoesOn` strings together rounds that lead back to the head of the
  loop, `Loop` adds the last one, and `Finished` is what comes after it.

  `Begins` tells a round as far as it has come: it counts from the start of its
  condition, whether or not that or the body ever ends.  `Reaches` says that a loop gets
  to a round, which it may do without ever coming to an end itself.  `exists_loopRun`:
  every run of `whileLoop` follows these rules, over any registry and in any context, and
  reaches all its rounds.  `Reaches.round_at`: what is true of each single round is
  therefore true of all rounds of a loop.
-/

namespace StepFlow.Flow

open StepFlow.Engine

/-! ## §1. The rules -/

/-- A slot as it is started: from which state and with which slot variables, and where the run
stands. -/
structure SlotStart where
  name : String
  state : State
  vars : State
  before : Context

/-- The run of a slot that was started so. -/
def SlotStart.ending (start : SlotStart) (outcome : Outcome State) (after : Context) : SlotRun :=
  ⟨start.name, start.state, start.vars, start.before, outcome, after⟩

/-- The slots of one round: the condition, and the body if it came to that. -/
structure LoopRound where
  condition : SlotRun
  body : Option SlotRun

/-- The start of the condition at a point of the loop. -/
def conditionStart (p : LoopPoint) (c : Context) : SlotStart :=
  ⟨"condition", p.state, [("index", .int p.iterations), ("state", .obj p.state)], c⟩

/-- The start of the body that follows.  It starts from a state of its own, but sees the slot
variables of the condition. -/
def bodyStart (p : LoopPoint) (state : State) (c : Context) : SlotStart :=
  ⟨bodySlot, state, [("index", .int p.iterations), ("state", .obj p.state)], c⟩

/-- The start of the `else` slot after a loop without a body. -/
def elseStart (p : LoopPoint) (c : Context) : SlotStart :=
  ⟨"else", p.state, [("index", .int (-1)), ("state", .obj p.state)], c⟩

/-- The run of the condition at a point of the loop. -/
def conditionRun (p : LoopPoint) (c : Context) (outcome : Outcome State) (d : Context) : SlotRun :=
  (conditionStart p c).ending outcome d

/-- The run of the body that follows. -/
def bodyRun (p : LoopPoint) (state : State) (c : Context) (outcome : Outcome State)
    (d : Context) : SlotRun :=
  (bodyStart p state c).ending outcome d

/-- The run of the `else` slot after a loop without a body. -/
def elseRun (p : LoopPoint) (c : Context) (outcome : Outcome State) (d : Context) : SlotRun :=
  (elseStart p c).ending outcome d

/-- Where a body leads that started from a state: to the next round, or out of the loop. -/
def afterBody (state : State) (iterations : Nat) : Outcome State → Outcome (LoopPoint ⊕ LoopPoint)
  | .ok next => .ok (.inl ⟨next, iterations⟩)
  | .error (.signal .next) => .ok (.inl ⟨state, iterations⟩)
  | .error (.signal .leave) => .ok (.inr ⟨state, iterations⟩)
  | .error (.fault e) => .error (.fault e)

section Rules

variable (caller : Caller) (max : Option Nat)

/-- What comes after the condition in a round: the body, if it comes to that. -/
inductive Judged (p : LoopPoint) (d : Context) :
    Outcome State → Option SlotRun → Outcome (LoopPoint ⊕ LoopPoint) → Context → Prop where
  /-- An interrupt of the condition ends the loop. -/
  | unanswered (i : Interrupt) : Judged p d (.error i) none (.error i) d
  /-- So it is if the run was cancelled meanwhile. -/
  | stopped {output : State} (hd : d.cancelled = true) :
      Judged p d (.ok output) none (.error (.fault .cancelled)) d
  /-- The condition has to say something. -/
  | unclear {output : State} {i : Interrupt} (hd : d.cancelled = false)
      (hverdict : verdict output = .error i) : Judged p d (.ok output) none (.error i) d
  /-- It may end the loop, perhaps with another state. -/
  | finished {output : State} {replacement : Option State} (hd : d.cancelled = false)
      (hverdict : verdict output = .ok (false, replacement)) :
      Judged p d (.ok output) none (.ok (.inr ⟨replacement.getD p.state, p.iterations⟩)) d
  /-- Or it lets the body run, perhaps from another state. -/
  | entered {output : State} {replacement : Option State} {x : Outcome State} {e : Context}
      (hd : d.cancelled = false) (hverdict : verdict output = .ok (true, replacement))
      (hbody : (bodyRun p (replacement.getD p.state) d x e).Ran caller) :
      Judged p d (.ok output) (some (bodyRun p (replacement.getD p.state) d x e))
        (afterBody (replacement.getD p.state) (p.iterations + 1) x) e

/-- One round from the head of the loop: the slots it runs, and where it leads. -/
inductive Round (p : LoopPoint) (c : Context) :
    Option LoopRound → Outcome (LoopPoint ⊕ LoopPoint) → Context → Prop where
  /-- A cancelled run does not get past the head. -/
  | refused (hc : c.cancelled = true) : Round p c none (.error (.fault .cancelled)) c
  /-- Neither does a loop whose limit is used up. -/
  | exceeded {m : Nat} (hc : c.cancelled = false) (hmax : max = some m)
      (hreached : m ≤ p.iterations) :
      Round p c none (.error (.flow "flow_while_max_iterations"
        ("flow/while exceeded maxIterations (" ++ Number.intText m ++ ")") none)) c
  /-- The condition is run. -/
  | judged {x : Outcome State} {body : Option SlotRun} {r : Outcome (LoopPoint ⊕ LoopPoint)}
      {d e : Context} (hc : c.cancelled = false) (hmax : limitReached max p.iterations = false)
      (hrun : (conditionRun p c x d).Ran caller) (hjudged : Judged caller p d x body r e) :
      Round p c (some ⟨conditionRun p c x d, body⟩) r e

/-- Rounds that all go on, from one point at the head of the loop to another. -/
inductive GoesOn : LoopPoint → Context → List LoopRound → LoopPoint → Context → Prop where
  /-- No round. -/
  | here (p : LoopPoint) (c : Context) : GoesOn p c [] p c
  /-- One round and more. -/
  | next {p q r : LoopPoint} {c d e : Context} {round : LoopRound} {rounds : List LoopRound}
      (hround : Round caller max p c (some round) (.ok (.inl q)) d)
      (hrounds : GoesOn q d rounds r e) : GoesOn p c (round :: rounds) r e

/-- A whole loop: rounds that go on, and a last one. -/
inductive Loop (p : LoopPoint) (c : Context) :
    List LoopRound → Outcome LoopPoint → Context → Prop where
  | ended {q : LoopPoint} {d e : Context} {rounds : List LoopRound} {last : Option LoopRound}
      {x : Outcome (LoopPoint ⊕ LoopPoint)} {r : Outcome LoopPoint}
      (hrounds : GoesOn caller max p c rounds q d) (hlast : Round caller max q d last x e)
      (hend : Action.roundEnd x = .inr r) : Loop p c (rounds ++ last.toList) r e

/-- The result of a loop. -/
def loopResult (state : State) (iterations : Nat) : Value :=
  .obj [("state", .obj state), ("iterations", .nat iterations)]

/-- From the end of a loop to the result: the `else` slot, if it comes to that. -/
inductive Finished (site : CallSite) : Outcome LoopPoint → Context → Option SlotRun →
    Outcome Value → Context → Prop where
  /-- An interrupt is passed on. -/
  | interrupted (i : Interrupt) (c : Context) : Finished site (.error i) c none (.error i) c
  /-- The state of the loop is the result, -/
  | plain {p : LoopPoint} (c : Context) (helse : ¬ (p.iterations = 0 ∧ site.hasSlot "else")) :
      Finished site (.ok p) c none (.ok (loopResult p.state p.iterations))
        (c.record (.noted (.flow (.loopEnded p.iterations))))
  /-- or what the `else` slot makes of it if no body was run. -/
  | otherwise {p : LoopPoint} {state : State} {c d : Context}
      (helse : p.iterations = 0 ∧ site.hasSlot "else")
      (hrun : (elseRun p c (.ok state) d).Ran caller) :
      Finished site (.ok p) c (some (elseRun p c (.ok state) d))
        (.ok (loopResult state p.iterations)) (d.record (.noted (.flow (.loopEnded p.iterations))))
  /-- An interrupt of the `else` slot is passed on as well. -/
  | failed {p : LoopPoint} {i : Interrupt} {c d : Context}
      (helse : p.iterations = 0 ∧ site.hasSlot "else")
      (hrun : (elseRun p c (.error i) d).Ran caller) :
      Finished site (.ok p) c (some (elseRun p c (.error i) d)) (.error i) d

/-- A run of `whileLoop`: its rounds, the `else` slot if it came to that, and how it ended. -/
def LoopRun (site : CallSite) (state : State) (c : Context) (rounds : List LoopRound)
    (other : Option SlotRun) (r : Outcome Value) (d : Context) : Prop :=
  ∃ x e, Loop caller max ⟨state, 0⟩ c rounds x e ∧ Finished caller site x e other r d

end Rules

/-! ## §2. Laws of the rules -/

section Laws

variable {caller : Caller} {max : Option Nat} {p q : LoopPoint} {c d : Context}

theorem eq_inl_of_roundEnd {x : Outcome (LoopPoint ⊕ LoopPoint)}
    (h : Action.roundEnd x = .inl p) : x = .ok (.inl p) := by
  match x with
  | .ok (.inl q) =>
      cases h
      rfl
  | .ok (.inr q) => cases h
  | .error i => cases h

theorem eq_inr_of_roundEnd {x : Outcome (LoopPoint ⊕ LoopPoint)}
    (h : Action.roundEnd x = .inr (.ok p)) : x = .ok (.inr p) := by
  match x with
  | .ok (.inl q) => cases h
  | .ok (.inr q) =>
      cases h
      rfl
  | .error i => cases h

theorem iterations_afterBody {start : State} {n : Nat} {x : Outcome State}
    {t : LoopPoint ⊕ LoopPoint} (h : afterBody start n x = .ok t) :
    (t.elim id id).iterations = n := by
  match x with
  | .ok next =>
      cases h
      rfl
  | .error (.signal .next) =>
      cases h
      rfl
  | .error (.signal .leave) =>
      cases h
      rfl
  | .error (.fault e) => cases h

/-- A round that goes on has run both slots, and counts. -/
theorem Round.of_inl {round : Option LoopRound} (h : Round caller max p c round (.ok (.inl q)) d) :
    ∃ ran, round = some ran ∧ ran.body.isSome = true ∧ q.iterations = p.iterations + 1 ∧
      c.cancelled = false := by
  cases h with
  | judged hc hmax hrun hjudged =>
      generalize hr : (.ok (.inl q) : Outcome (LoopPoint ⊕ LoopPoint)) = r at hjudged
      cases hjudged with
      | entered hd hverdict hbody =>
          exact ⟨_, rfl, rfl, iterations_afterBody hr.symm, hc⟩
      | _ => cases hr

theorem Loop.cons {ran : LoopRound} {rounds : List LoopRound} {x : Outcome LoopPoint}
    {e : Context} (hround : Round caller max p c (some ran) (.ok (.inl q)) d)
    (h : Loop caller max q d rounds x e) : Loop caller max p c (ran :: rounds) x e := by
  cases h with
  | ended hrounds hlast hend => exact .ended (.next hround hrounds) hlast hend

/-- The rounds count the bodies. -/
theorem GoesOn.iterations {rounds : List LoopRound} (h : GoesOn caller max p c rounds q d) :
    q.iterations = p.iterations + rounds.length := by
  induction h with
  | here p c => rfl
  | next hround hrounds ih =>
      obtain ⟨_, _, _, hcount, -⟩ := hround.of_inl
      rw [ih, hcount, List.length_cons]
      omega

end Laws

end StepFlow.Flow

/-! ## §3. The rules are those of `whileLoop` -/

namespace StepFlow

open StepFlow.Engine StepFlow.Flow

variable {registry : Registry} {limit : Nat} {max : Option Nat} {p q : LoopPoint} {c d : Context}

/-- A round, slot by slot. -/
theorem Engine.performWithin_whileRound (max : Option Nat) (p : LoopPoint) (c : Context) :
    performWithin registry limit (whileRound max p) c =
      if c.cancelled then some (.error (.fault .cancelled), c)
      else if limitReached max p.iterations then some (.error (limitExceeded max), c)
      else (runSlot (callWithin registry limit) "condition" (some p.state)
          (some (loopVars p.iterations p.state)) c).bind fun
        | (.error i, d) => some (.error i, d)
        | (.ok output, d) =>
            if d.cancelled then some (.error (.fault .cancelled), d)
            else match verdict output with
              | .error i => some (.error i, d)
              | .ok (false, replacement) =>
                  some (.ok (.inr ⟨replacement.getD p.state, p.iterations⟩), d)
              | .ok (true, replacement) =>
                  (runSlot (callWithin registry limit) bodySlot
                    (some (replacement.getD p.state)) (some (loopVars p.iterations p.state)) d).map
                      fun q => (afterBody (replacement.getD p.state) (p.iterations + 1) q.1, q.2) := by
  unfold whileRound
  rw [performWithin_ensureActive_bind]
  split
  · rfl
  · by_cases hmax : limitReached max p.iterations = true
    · rw [if_pos hmax, if_pos hmax]
      rfl
    · rw [if_neg hmax, if_neg hmax, performWithin_bind, performWithin_runSlot]
      show Option.bind (runSlot _ _ _ _ c) _ = Option.bind (runSlot _ _ _ _ c) _
      congr 1
      funext ⟨x, d⟩
      cases x with
      | error i => rfl
      | ok output =>
          dsimp only
          rw [performWithin_ensureActive_bind]
          split
          · rfl
          · rw [performWithin_bind, performWithin_ofOutcome]
            cases verdict output with
            | error i => rfl
            | ok v =>
                obtain ⟨proceed, replacement⟩ := v
                cases proceed with
                | false => rfl
                | true =>
                    show performWithin registry limit (Action.trySlot _ _ _ >>= _) d = _
                    rw [performWithin_trySlot_then]
                    dsimp only
                    match runSlot (callWithin registry limit) bodySlot
                        (some (replacement.getD p.state))
                        (some (loopVars p.iterations p.state)) d with
                    | none => rfl
                    | some (.ok next, e) => rfl
                    | some (.error (.signal .next), e) => rfl
                    | some (.error (.signal .leave), e) => rfl
                    | some (.error (.fault f), e) => rfl

/-- What the rules allow, a round does. -/
theorem Flow.Round.performs {round : Option LoopRound} {r : Outcome (LoopPoint ⊕ LoopPoint)}
    {e : Context} (h : Round (callWithin registry limit) max p c round r e) :
    performWithin registry limit (whileRound max p) c = some (r, e) := by
  rw [performWithin_whileRound]
  cases h with
  | refused hc => rw [if_pos hc]
  | @exceeded m hc hmax hreached =>
      have hused : limitReached (some m) p.iterations = true := decide_eq_true hreached
      rw [hc, hmax, hused, if_neg Bool.false_ne_true, if_pos rfl]
      rfl
  | @judged x body _ d _ hc hmax hrun hjudged =>
      have hrun : runSlot (callWithin registry limit) "condition" (some p.state)
        (some (loopVars p.iterations p.state)) c = some (x, d) := hrun
      rw [hc, hmax, if_neg Bool.false_ne_true, if_neg Bool.false_ne_true, hrun]
      cases hjudged with
      | unanswered i => rfl
      | @stopped output hd =>
          show (if e.cancelled then _ else _) = _
          rw [if_pos hd]
      | @unclear output i hd hverdict =>
          show (if e.cancelled then _ else match verdict output with | _ => _) = _
          rw [hd, hverdict]
          rfl
      | @finished output replacement hd hverdict =>
          show (if e.cancelled then _ else match verdict output with | _ => _) = _
          rw [hd, hverdict]
          rfl
      | @entered output replacement y _ hd hverdict hbody =>
          have hbody : runSlot (callWithin registry limit) bodySlot
            (some (replacement.getD p.state)) (some (loopVars p.iterations p.state)) d =
              some (y, e) := hbody
          dsimp only [Option.bind]
          rw [hd, hverdict]
          dsimp only
          rw [hbody]
          rfl

/-- What a round does, the rules allow. -/
theorem Engine.exists_round {r : Outcome (LoopPoint ⊕ LoopPoint)}
    (h : performWithin registry limit (whileRound max p) c = some (r, d)) :
    ∃ round, Round (callWithin registry limit) max p c round r d := by
  rw [performWithin_whileRound] at h
  split at h
  · next hc =>
      cases h
      exact ⟨none, .refused hc⟩
  · next hc =>
      have hc : c.cancelled = false := Bool.eq_false_iff.mpr hc
      split at h
      · next hmax =>
          cases h
          cases max with
          | none => cases hmax
          | some m => exact ⟨none, .exceeded hc rfl (of_decide_eq_true hmax)⟩
      · next hmax =>
          have hmax : limitReached max p.iterations = false := Bool.eq_false_iff.mpr hmax
          obtain ⟨⟨x, e⟩, hrun, h⟩ := Option.bind_eq_some_iff.mp h
          have hjudged : ∃ body, Judged (callWithin registry limit) p e x body r d := by
            cases x with
            | error i =>
                cases h
                exact ⟨none, .unanswered i⟩
            | ok output =>
                dsimp only at h
                split at h
                · next he =>
                    cases h
                    exact ⟨none, .stopped he⟩
                · next he =>
                    have he : e.cancelled = false := Bool.eq_false_iff.mpr he
                    split at h
                    · next hverdict =>
                        cases h
                        exact ⟨none, .unclear he hverdict⟩
                    · next hverdict =>
                        cases h
                        exact ⟨none, .finished he hverdict⟩
                    · next hverdict =>
                        obtain ⟨⟨y, f⟩, hbody, hend⟩ := Option.map_eq_some_iff.mp h
                        cases hend
                        exact ⟨_, .entered he hverdict hbody⟩
          obtain ⟨body, hjudged⟩ := hjudged
          exact ⟨_, .judged hc hmax hrun hjudged⟩

theorem Engine.performWithin_rounds {β σ : Type} (round : σ → Action (σ ⊕ β)) (first : σ) :
    performWithin registry limit (Action.rounds round first) =
      Run.rounds (fun s => do return Action.roundEnd (← performWithin registry limit (round s)))
        limit first := by
  have hround : ∀ s, perform (answer registry (enter registry limit)) limit
      ((round s).run.bind fun r => .done (Action.roundEnd r)) =
        (do return Action.roundEnd (← performWithin registry limit (round s))) :=
    fun s => perform_bind _ _ _ _
  show (Run.rounds (fun s => perform _ limit ((round s).run.bind _)) limit first >>= pure) = _
  rw [bind_pure]
  congr 1
  funext s
  exact hround s

/-- What comes after the rounds. -/
def Flow.concludeLoop (site : CallSite) (last : LoopPoint) : Action Value := do
  let state ← afterLoop site last
  Action.report (.loopEnded last.iterations)
  return loopResult state last.iterations

/-- One round as a step of the loop. -/
def Engine.loopStep (registry : Registry) (limit : Nat) (max : Option Nat) (p : LoopPoint) :
    Run (LoopPoint ⊕ Outcome LoopPoint) := do
  return Action.roundEnd (← performWithin registry limit (whileRound max p))

/-- A step of the loop is one of the rules. -/
theorem Engine.exists_round_of_loopStep {t : LoopPoint ⊕ Outcome LoopPoint}
    (h : loopStep registry limit max p c = some (t, d)) :
    ∃ round x, Round (callWithin registry limit) max p c round x d ∧ Action.roundEnd x = t := by
  obtain ⟨x, e, hround, hpure⟩ := Run.bind_eq_some.mp h
  obtain ⟨hend, rfl⟩ := Run.pure_eq_some.mp hpure
  obtain ⟨round, hround⟩ := exists_round hround
  exact ⟨round, x, hround, hend⟩

variable {input : State} {site : CallSite} {state : State}

theorem Engine.performWithin_whileLoop (hstate : loopState (Dict.get? input "state") = .ok state)
    (hmax : roundLimit (Dict.get? input "maxIterations") = .ok max) :
    performWithin registry limit (whileLoop input site) = (do
      match ← Run.rounds (loopStep registry limit max) limit ⟨state, 0⟩ with
      | .ok last => performWithin registry limit (concludeLoop site last)
      | .error i => return .error i) := by
  unfold whileLoop
  rw [hstate, hmax]
  show performWithin registry limit (Action.rounds (whileRound max) ⟨state, 0⟩ >>=
    fun last => concludeLoop site last) = _
  rw [performWithin_bind, performWithin_rounds]
  show (Run.rounds (loopStep registry limit max) limit _ >>= _) = _
  congr 1
  funext r
  cases r <;> rfl

/-- What comes after the rounds follows the rules. -/
theorem Engine.exists_finished {last : LoopPoint} {r : Outcome Value}
    (h : performWithin registry limit (concludeLoop site last) c = some (r, d)) :
    ∃ other, Finished (callWithin registry limit) site (.ok last) c other r d := by
  unfold concludeLoop at h
  by_cases helse : last.iterations = 0 ∧ site.hasSlot "else"
  · rw [afterLoop, if_pos helse, performWithin_bind_eq_some, performWithin_runSlot] at h
    rcases h with ⟨state, e, hrun, h⟩ | ⟨i, hrun, rfl⟩
    · cases h
      exact ⟨_, .otherwise helse hrun⟩
    · exact ⟨_, .failed helse hrun⟩
  · rw [afterLoop, if_neg helse] at h
    cases h
    exact ⟨none, .plain c helse⟩

/-- The rounds follow the rules.  On the number of rounds that are left: a round that goes on is
put in front of those after it. -/
theorem Engine.exists_loop {rounds : Nat} {r : Outcome LoopPoint} :
    ∀ {p : LoopPoint} {c : Context},
      Run.rounds (loopStep registry limit max) rounds p c = some (r, d) →
      ∃ ran, Loop (callWithin registry limit) max p c ran r d := by
  induction rounds with
  | zero => intro p c h; cases h
  | succ rounds ih =>
      intro p c h
      obtain ⟨t, e, hstep, hrest⟩ := Run.bind_eq_some.mp h
      obtain ⟨round, x, hround, hend⟩ := exists_round_of_loopStep hstep
      cases t with
      | inr b =>
          obtain ⟨rfl, rfl⟩ := Run.pure_eq_some.mp hrest
          exact ⟨_, .ended (.here p c) hround hend⟩
      | inl q =>
          obtain rfl := eq_inl_of_roundEnd hend
          obtain ⟨ran, rfl, -⟩ := hround.of_inl
          obtain ⟨later, hloop⟩ := ih hrest
          exact ⟨ran :: later, hloop.cons hround⟩

/-! ## §4. Every round of a run -/

theorem Flow.Round.frames_eq {round : Option LoopRound} {r : Outcome (LoopPoint ⊕ LoopPoint)}
    (h : Round (callWithin registry limit) max p c round r d) : d.frames = c.frames := by
  obtain ⟨es, hes⟩ := perform_evolves registry limit (whileRound max p).run c r d h.performs
  exact hes.frames_eq

theorem Flow.GoesOn.frames_eq {rounds : List LoopRound}
    (h : GoesOn (callWithin registry limit) max p c rounds q d) : d.frames = c.frames := by
  induction h with
  | here p c => rfl
  | next hround hrounds ih => exact ih.trans hround.frames_eq

/-- A round as far as it has come: the condition from its start on, how that ended if it did,
and the body from its start on if it came to that. -/
structure Flow.BegunRound where
  condition : SlotStart
  answer : Option (Outcome State × Context)
  body : Option SlotStart

/-- The start of a slot that was run. -/
def Engine.SlotRun.start (run : SlotRun) : SlotStart :=
  ⟨run.name, run.state, run.vars, run.before⟩

/-- A round that came to its end. -/
def Flow.LoopRound.begun (round : LoopRound) : BegunRound :=
  ⟨round.condition.start, some (round.condition.outcome, round.condition.after),
    round.body.map SlotRun.start⟩

/-- What a round starts from the head of the loop. -/
inductive Flow.Begins (caller : Caller) (max : Option Nat) (p : LoopPoint) (c : Context) :
    BegunRound → Prop where
  /-- The condition is started, and may never end. -/
  | asking (hc : c.cancelled = false) (hmax : limitReached max p.iterations = false) :
      Begins caller max p c ⟨conditionStart p c, none, none⟩
  /-- It ends, and the body is not started. -/
  | staying {x : Outcome State} {d : Context} (hc : c.cancelled = false)
      (hmax : limitReached max p.iterations = false) (hrun : (conditionRun p c x d).Ran caller)
      (hstay : ∀ output replacement, x = .ok output → d.cancelled = false →
        verdict output ≠ .ok (true, replacement)) :
      Begins caller max p c ⟨conditionStart p c, some (x, d), none⟩
  /-- The body is started, and may never end. -/
  | entering {output : State} {replacement : Option State} {d : Context}
      (hc : c.cancelled = false) (hmax : limitReached max p.iterations = false)
      (hrun : (conditionRun p c (.ok output) d).Ran caller) (hd : d.cancelled = false)
      (hverdict : verdict output = .ok (true, replacement)) :
      Begins caller max p c ⟨conditionStart p c, some (.ok output, d),
        some (bodyStart p (replacement.getD p.state) d)⟩

theorem Flow.Round.begins {caller : Caller} {round : LoopRound}
    {r : Outcome (LoopPoint ⊕ LoopPoint)} (h : Round caller max p c (some round) r d) :
    Begins caller max p c round.begun := by
  cases h with
  | judged hc hmax hrun hjudged =>
      cases hjudged with
      | unanswered i => exact .staying hc hmax hrun nofun
      | stopped hd =>
          refine .staying hc hmax hrun fun output replacement _ hgoes _ => ?_
          cases hd.symm.trans hgoes
      | unclear hd hverdict =>
          refine .staying hc hmax hrun fun output replacement houtput _ hgoes => ?_
          cases houtput
          cases hverdict.symm.trans hgoes
      | finished hd hverdict =>
          refine .staying hc hmax hrun fun output replacement houtput _ hgoes => ?_
          cases houtput
          cases hverdict.symm.trans hgoes
      | entered hd hverdict hbody => exact .entering hc hmax hrun hd hverdict

/-- A round that a loop gets to after so many others, whether or not the loop or the round ever
ends. -/
def Flow.Reaches (caller : Caller) (max : Option Nat) (p : LoopPoint) (c : Context) (k : Nat)
    (round : BegunRound) : Prop :=
  ∃ before q d, GoesOn caller max p c before q d ∧ before.length = k ∧
    Begins caller max q d round

theorem Flow.Begins.reaches {caller : Caller} {round : BegunRound}
    (h : Begins caller max p c round) : Reaches caller max p c 0 round :=
  ⟨[], p, c, .here p c, rfl, h⟩

theorem Flow.Reaches.of_next {caller : Caller} {k : Nat} {first : LoopRound} {round : BegunRound}
    (h : Reaches caller max q d k round)
    (hfirst : Round caller max p c (some first) (.ok (.inl q)) d) :
    Reaches caller max p c (k + 1) round := by
  obtain ⟨before, t, e, hbefore, rfl, hround⟩ := h
  exact ⟨first :: before, t, e, .next hfirst hbefore, rfl, hround⟩

/-- **A round that is reached is one of the rules**, from a point with as many bodies behind it as
rounds, and within the same frames. -/
theorem Flow.Reaches.round_at {k : Nat} {round : BegunRound}
    (h : Reaches (callWithin registry limit) max p c k round) :
    ∃ t e, t.iterations = p.iterations + k ∧ e.frames = c.frames ∧
      Begins (callWithin registry limit) max t e round := by
  obtain ⟨before, t, e, hbefore, rfl, hround⟩ := h
  exact ⟨t, e, hbefore.iterations, hbefore.frames_eq, hround⟩

theorem Flow.GoesOn.reaches {rounds : List LoopRound} {round : LoopRound}
    (h : GoesOn (callWithin registry limit) max p c rounds q d) :
    ∀ {k : Nat}, rounds[k]? = some round →
      Reaches (callWithin registry limit) max p c k round.begun := by
  induction h with
  | here p c => intro k hk; cases hk
  | next hround hrounds ih =>
      intro k hk
      cases k with
      | zero =>
          cases hk
          exact hround.begins.reaches
      | succ k => exact (ih hk).of_next hround

/-- The rounds of a loop are reached, each one after those before it. -/
theorem Flow.Loop.reaches {rounds : List LoopRound} {x : Outcome LoopPoint}
    (h : Loop (callWithin registry limit) max p c rounds x d) {k : Nat} {round : LoopRound}
    (hk : rounds[k]? = some round) : Reaches (callWithin registry limit) max p c k round.begun := by
  cases h with
  | @ended q e _ rounds last x _ hrounds hlast hend =>
      rcases Nat.lt_or_ge k rounds.length with hlt | hge
      · rw [List.getElem?_append_left hlt] at hk
        exact hrounds.reaches hk
      · -- only the last round is left
        rw [List.getElem?_append_right hge] at hk
        cases last with
        | none => cases hk
        | some last =>
            have hzero : k - rounds.length = 0 := by
              have hlt := (List.getElem?_eq_some_iff.mp hk).1
              simp only [Option.toList_some, List.length_singleton] at hlt
              omega
            rw [hzero] at hk
            cases hk
            exact ⟨rounds, q, e, hrounds, by omega, hlast.begins⟩

/-- The `else` slot that a loop starts, whether or not it ever ends. -/
def Flow.StartsElse (caller : Caller) (max : Option Nat) (site : CallSite) (p : LoopPoint)
    (c : Context) (start : SlotStart) : Prop :=
  ∃ rounds last d, Loop caller max p c rounds (.ok last) d ∧
    (last.iterations = 0 ∧ site.hasSlot "else") ∧ start = elseStart last d

/-- **A run of `whileLoop` follows the rules**, over any registry and in any context, and reaches
all of its rounds. -/
theorem Engine.exists_loopRun (hstate : loopState (Dict.get? input "state") = .ok state)
    (hmax : roundLimit (Dict.get? input "maxIterations") = .ok max) {r : Outcome Value}
    (h : performWithin registry limit (whileLoop input site) c = some (r, d)) :
    ∃ rounds other, LoopRun (callWithin registry limit) max site state c rounds other r d ∧
      ∀ k round, rounds[k]? = some round →
        Reaches (callWithin registry limit) max ⟨state, 0⟩ c k round.begun := by
  rw [performWithin_whileLoop hstate hmax] at h
  obtain ⟨x, e, hrounds, hrest⟩ := Run.bind_eq_some.mp h
  obtain ⟨rounds, hloop⟩ := exists_loop hrounds
  have hreached := fun k round (hk : rounds[k]? = some round) => hloop.reaches hk
  cases x with
  | error i =>
      obtain ⟨rfl, rfl⟩ := Run.pure_eq_some.mp hrest
      exact ⟨rounds, none, ⟨_, _, hloop, .interrupted i e⟩, hreached⟩
  | ok last =>
      obtain ⟨other, hfinished⟩ := exists_finished hrest
      exact ⟨rounds, other, ⟨_, _, hloop, hfinished⟩, hreached⟩

/-- The slots of a loop whose condition is always met and whose body raises a signal. -/
def Flow.signalSlots (signalId : String) : SlotMap :=
  [("condition", [⟨Builtin.setId, ⟨[], [("cond", .required (.bool true))]⟩,
      ⟨[], [("cond", .required (.str "cond"))]⟩, [], none, none⟩]),
    (bodySlot, [.ofCall signalId])]

/-- Where a loop with these slots starts. -/
def Flow.signalContext (signalId : String) : Context :=
  (Context.start .info false none).pushFrame ⟨signalSlots signalId, [], []⟩

end StepFlow
