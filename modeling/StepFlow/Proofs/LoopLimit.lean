import StepFlow.Proofs.ConditionalLoop
import StepFlow.Proofs.Limit

/-
  StepFlow.Proofs.LoopLimit
  ─────────────────────────
  A limit on the rounds only cuts a loop.

  A loop with a limit runs the same rounds as the loop without one until it is back
  at its head with as many bodies behind it as the limit allows.  If the loop without
  a limit never gets there in a run that is not cancelled, nothing shows that there is
  a limit; if it does, the loop with the limit fails there and then.

  `limit_cuts_loop` says so for the runs of `whileLoop`, and that the bodies of a loop
  that has a result are never more than the limit.
-/

namespace StepFlow

/-! ## §1. Reading a limit -/

namespace Flow

open StepFlow.Engine

/-- A natural number that a double can hold is taken as the limit that it is, be it written as a
whole number or as a double. -/
theorem roundLimit_of_whole {n : Number} {m : Nat} (hn : n.toBinary64 = .ofInt m) (hm : 1 ≤ m)
    (hdouble : m ≤ twoPow 53) : roundLimit (some (.num n)) = .ok (some m) := by
  obtain ⟨hzero, hnegative⟩ := Binary64.ofInt_positive (i := m) (by omega)
  obtain ⟨hwhole, hfloor⟩ := Binary64.ofInt_exact (by omega) hdouble
  have hword : twoPow 53 ≤ twoPow 64 - 1 := by decide
  simp only [roundLimit, hn, hzero, hnegative, hwhole, hfloor, Bool.or_self, Bool.false_eq_true,
    if_false, if_true]
  rw [Nat.min_eq_left (Nat.le_trans hdouble hword)]

/-! ## §2. Rounds with and without a limit -/

theorem limitReached_some (m k : Nat) : limitReached (some m) k = false ↔ k < m := by
  simp [limitReached]

variable {caller : Caller} {m : Nat} {p q : LoopPoint} {c d : Context}

/-- A limit that is not used up changes nothing about a round. -/
theorem whileRound_limited (h : p.iterations < m) : whileRound (some m) p = whileRound none p := by
  have hfree : limitReached none p.iterations = false := rfl
  have hlimited : limitReached (some m) p.iterations = false :=
    (limitReached_some m p.iterations).mpr h
  simp only [whileRound, hfree, hlimited, Bool.false_eq_true, if_false]

theorem Round.limited {ran : LoopRound} {r : Outcome (LoopPoint ⊕ LoopPoint)}
    (h : Round caller none p c (some ran) r d) (hp : p.iterations < m) :
    Round caller (some m) p c (some ran) r d := by
  cases h with
  | judged hc hmax hrun hjudged =>
      exact .judged hc ((limitReached_some m p.iterations).mpr hp) hrun hjudged

/-- Rounds of the loop without a limit are rounds of the loop with one, up to that limit. -/
theorem GoesOn.limited {rounds : List LoopRound} (h : GoesOn caller none p c rounds q d)
    (hq : q.iterations ≤ m) : GoesOn caller (some m) p c rounds q d := by
  induction h with
  | here p c => exact .here p c
  | next hround hrounds ih =>
      obtain ⟨-, -, -, hnext, -⟩ := hround.of_inl
      have hlater := hrounds.iterations
      exact .next (hround.limited (by omega)) (ih hq)

theorem GoesOn.body_isSome {max : Option Nat} {rounds : List LoopRound}
    (h : GoesOn caller max p c rounds q d) : ∀ round ∈ rounds, round.body.isSome = true := by
  induction h with
  | here p c => intro round hmem; cases hmem
  | next hround hrounds ih =>
      obtain ⟨_, ⟨⟩, hbody, -⟩ := hround.of_inl
      intro round hmem
      rcases List.mem_cons.mp hmem with rfl | hmem
      · exact hbody
      · exact ih round hmem

/-- A loop with a limit ends with at most as many bodies. -/
theorem Loop.iterations_le {rounds : List LoopRound} {x : Outcome LoopPoint}
    (h : Loop caller (some m) p c rounds x d) {last : LoopPoint} (hx : x = .ok last) :
    last.iterations ≤ m := by
  cases h with
  | @ended q e _ rounds round r _ hrounds hlast hend =>
      obtain rfl : r = .ok (.inr last) := eq_inr_of_roundEnd (hend.trans (congrArg Sum.inr hx))
      cases hlast with
      | judged hc hmax hrun hjudged =>
          have hlt : q.iterations < m := (limitReached_some m q.iterations).mp hmax
          generalize hr : (.ok (.inr last) : Outcome (LoopPoint ⊕ LoopPoint)) = r at hjudged
          cases hjudged with
          | finished hd hverdict =>
              cases hr
              exact Nat.le_of_lt hlt
          | entered hd hverdict hbody =>
              have hcount : last.iterations = q.iterations + 1 := iterations_afterBody hr.symm
              omega
          | _ => cases hr

/-- The loop without a limit comes back to its head, in a run that is not cancelled, with so
many bodies behind it. -/
def ComesBack (caller : Caller) (p : LoopPoint) (c : Context) (m : Nat) : Prop :=
  ∃ rounds q d, GoesOn caller none p c rounds q d ∧ q.iterations = m ∧ d.cancelled = false

theorem ComesBack.of_next {ran : Option LoopRound} (h : ComesBack caller q d m)
    (hround : Round caller none p c ran (.ok (.inl q)) d) : ComesBack caller p c m := by
  obtain ⟨rounds, t, e, hrounds, ht, he⟩ := h
  obtain ⟨ran, rfl, -⟩ := hround.of_inl
  exact ⟨ran :: rounds, t, e, .next hround hrounds, ht, he⟩

/-! ## §3. Rounds within a larger limit of the run -/

section Extending

variable {more : Caller} {max : Option Nat}
  (hmore : ∀ id input site, Run.Extends (more id input site) (caller id input site))

include hmore

theorem Round.extends {ran : Option LoopRound} {r : Outcome (LoopPoint ⊕ LoopPoint)}
    (h : Round caller max p c ran r d) : Round more max p c ran r d := by
  have hslot : ∀ {run : SlotRun}, run.Ran caller → run.Ran more :=
    fun h => runSlot_extends hmore _ _ _ _ _ h
  cases h with
  | refused hc => exact .refused hc
  | exceeded hc hmax hreached => exact .exceeded hc hmax hreached
  | judged hc hmax hrun hjudged =>
      refine .judged hc hmax (hslot hrun) ?_
      cases hjudged with
      | unanswered i => exact .unanswered i
      | stopped hd => exact .stopped hd
      | unclear hd hverdict => exact .unclear hd hverdict
      | finished hd hverdict => exact .finished hd hverdict
      | entered hd hverdict hbody => exact .entered hd hverdict (hslot hbody)

theorem GoesOn.extends {rounds : List LoopRound} (h : GoesOn caller max p c rounds q d) :
    GoesOn more max p c rounds q d := by
  induction h with
  | here p c => exact .here p c
  | next hround hrounds ih => exact .next (hround.extends hmore) ih

end Extending

end Flow

/-! ## §4. The two loops -/

theorem Run.rounds_zero {β σ : Type} (round : σ → Run (σ ⊕ β)) (s : σ) (c : Context) :
    Run.rounds round 0 s c = none := rfl

/-- A first round, and those after it if it goes on. -/
theorem Run.rounds_succ {β σ : Type} (round : σ → Run (σ ⊕ β)) (left : Nat) (s : σ) (c : Context) :
    Run.rounds round (left + 1) s c = (round s c).bind fun
      | (.inl next, d) => Run.rounds round left next d
      | (.inr b, d) => some (b, d) := by
  show Option.bind (round s c) _ = _
  congr 1
  funext ⟨t, d⟩
  cases t <;> rfl

namespace Engine

open StepFlow.Flow

variable {registry : Registry} {limit : Nat} {max : Option Nat} {m : Nat} {p q : LoopPoint}
  {c d : Context}

/-- A step of the loop that is one of the rules. -/
theorem loopStep_of_round {ran : Option LoopRound} {r : Outcome (LoopPoint ⊕ LoopPoint)}
    (h : Round (callWithin registry limit) max p c ran r d) :
    loopStep registry limit max p c = some (Action.roundEnd r, d) :=
  Run.bind_eq_some.mpr ⟨r, d, h.performs, rfl⟩

/-- Rounds that go on only take their share of the rounds that are left. -/
theorem rounds_of_goesOn {rounds : List LoopRound}
    (h : GoesOn (callWithin registry limit) max p c rounds q d) (left : Nat) :
    Run.rounds (loopStep registry limit max) (left + rounds.length) p c =
      Run.rounds (loopStep registry limit max) left q d := by
  induction h with
  | here p c => rw [List.length_nil, Nat.add_zero]
  | @next p t q c e d round rounds hround hrounds ih =>
      rw [List.length_cons, ← Nat.add_assoc, Run.rounds_succ, loopStep_of_round hround]
      exact ih

theorem rounds_of_ended {rounds : List LoopRound} {last : Option LoopRound} {e : Context}
    {x : Outcome (LoopPoint ⊕ LoopPoint)} {r : Outcome LoopPoint}
    (h : GoesOn (callWithin registry limit) max p c rounds q d)
    (hlast : Round (callWithin registry limit) max q d last x e)
    (hend : Action.roundEnd x = .inr r) {left : Nat} (hleft : rounds.length < left) :
    Run.rounds (loopStep registry limit max) left p c = some (r, e) := by
  obtain ⟨more, rfl⟩ : ∃ more, left = more + 1 + rounds.length :=
    ⟨left - rounds.length - 1, by omega⟩
  rw [rounds_of_goesOn h, Run.rounds_succ, loopStep_of_round hlast, hend]
  rfl

/-- A step of the loop is the same with and without a limit unless the limit is used up, and once
the run is cancelled it is anyway. -/
theorem loopStep_limited (h : p.iterations < m ∨ c.cancelled = true) :
    loopStep registry limit (some m) p c = loopStep registry limit none p c := by
  rcases h with hlt | hc
  · unfold loopStep
    rw [whileRound_limited hlt]
  · rw [loopStep_of_round (.refused hc), loopStep_of_round (.refused hc)]

/-- If the loop without a limit does not come back with the limit used up, the two loops run
alike.  On the number of rounds that are left. -/
theorem rounds_limited (left : Nat) : ∀ {p : LoopPoint} {c : Context}, p.iterations ≤ m →
    ¬ ComesBack (callWithin registry limit) p c m →
    Run.rounds (loopStep registry limit (some m)) left p c =
      Run.rounds (loopStep registry limit none) left p c := by
  induction left with
  | zero =>
      intro p c _ _
      rw [Run.rounds_zero, Run.rounds_zero]
  | succ left ih =>
      intro p c hle hback
      have hlimit : p.iterations < m ∨ c.cancelled = true := by
        rcases Nat.lt_or_eq_of_le hle with hlt | heq
        · exact .inl hlt
        · -- the loop is back already, so it can only be that the run is cancelled
          cases hc : c.cancelled with
          | true => exact .inr rfl
          | false => exact (hback ⟨[], p, c, .here p c, heq, hc⟩).elim
      rw [Run.rounds_succ, Run.rounds_succ, loopStep_limited hlimit]
      cases hstep : loopStep registry limit none p c with
      | none => rw [Option.bind_none, Option.bind_none]
      | some ended =>
          obtain ⟨t, d⟩ := ended
          rw [Option.bind_some, Option.bind_some]
          cases t with
          | inr r => dsimp only
          | inl q =>
              dsimp only
              obtain ⟨ran, x, hround, hend⟩ := exists_round_of_loopStep hstep
              obtain rfl := eq_inl_of_roundEnd hend
              obtain ⟨_, -, -, hcount, hactive⟩ := hround.of_inl
              -- a cancelled run would not have gone on, so the limit was not used up
              have hle : q.iterations ≤ m := by
                rcases hlimit with hlt | hc
                · omega
                · cases hc.symm.trans hactive
              exact ih hle fun h => hback (h.of_next hround)

variable {free limited state : State} {site : CallSite} {n : Number}

/-- **A limit on the rounds only cuts a loop.**  Two inputs give a loop the same state; one sets no
limit and the other one that is a natural number.  If the loop without a limit does not come back
to its head, uncancelled, with as many bodies behind it as the limit allows, then both loops run
alike, to the same outcome and the same events.  If it does come back so, it has run the condition
and the body so many times; the other loop has the same rounds and fails there, if only the limit
of the run lets it get that far.  The bodies of a loop that has a result are never more than its
limit. -/
theorem limit_cuts_loop (hstate : loopState (Dict.get? free "state") = .ok state)
    (hfree : roundLimit (Dict.get? free "maxIterations") = .ok none)
    (hsame : loopState (Dict.get? limited "state") = .ok state)
    (hlimited : Dict.get? limited "maxIterations" = some (.num n))
    (hn : n.toBinary64 = .ofInt m) (hm : 1 ≤ m) (hdouble : m ≤ twoPow 53) :
    (¬ ComesBack (callWithin registry limit) ⟨state, 0⟩ c m →
        performWithin registry limit (whileLoop limited site) c =
          performWithin registry limit (whileLoop free site) c) ∧
      (∀ rounds q d, GoesOn (callWithin registry limit) none ⟨state, 0⟩ c rounds q d →
        q.iterations = m → d.cancelled = false →
        rounds.length = m ∧ (∀ round ∈ rounds, round.body.isSome = true) ∧
          ∀ larger, limit ≤ larger → m < larger →
            LoopRun (callWithin registry larger) (some m) site state c rounds none
                (.error (.flow "flow_while_max_iterations"
                  ("flow/while exceeded maxIterations (" ++ Number.intText m ++ ")") none)) d ∧
              performWithin registry larger (whileLoop limited site) c =
                some (.error (.flow "flow_while_max_iterations"
                  ("flow/while exceeded maxIterations (" ++ Number.intText m ++ ")") none), d)) ∧
      ∀ v d, performWithin registry limit (whileLoop limited site) c = some (.ok v, d) →
        ∃ last iterations, v = loopResult last iterations ∧ iterations ≤ m := by
  have hmax : roundLimit (Dict.get? limited "maxIterations") = .ok (some m) := by
    rw [hlimited]
    exact roundLimit_of_whole hn hm hdouble
  refine ⟨fun hback => ?_, fun rounds q d hrounds hq hd => ?_, fun v d h => ?_⟩
  · -- the rounds are the same, and what comes after them does not know the limit
    rw [performWithin_whileLoop hsame hmax, performWithin_whileLoop hstate hfree,
      Run.bind_apply, Run.bind_apply, rounds_limited limit (Nat.zero_le m) hback]
  · have hlength : rounds.length = m := by
      have hcount : q.iterations = 0 + rounds.length := hrounds.iterations
      omega
    refine ⟨hlength, hrounds.body_isSome, fun larger hlarger henough => ?_⟩
    -- the same rounds with the limit, and then the one that it refuses
    have hlater : GoesOn (callWithin registry larger) (some m) ⟨state, 0⟩ c rounds q d :=
      (hrounds.limited (Nat.le_of_eq hq)).extends (callWithin_extends registry hlarger)
    have hcut : Round (callWithin registry larger) (some m) q d none
        (.error (.flow "flow_while_max_iterations"
          ("flow/while exceeded maxIterations (" ++ Number.intText m ++ ")") none)) d :=
      .exceeded hd rfl (Nat.le_of_eq hq.symm)
    have hloop := Loop.ended hlater hcut rfl
    rw [Option.toList_none, List.append_nil] at hloop
    refine ⟨⟨_, d, hloop, .interrupted _ d⟩, ?_⟩
    rw [performWithin_whileLoop hsame hmax, Run.bind_apply,
      rounds_of_ended hlater hcut rfl (Nat.lt_of_le_of_lt (Nat.le_of_eq hlength) henough)]
    rfl
  · obtain ⟨rounds, other, ⟨x, e, hloop, hfinished⟩, -⟩ := exists_loopRun hsame hmax h
    cases hfinished with
    | plain _ helse => exact ⟨_, _, rfl, hloop.iterations_le rfl⟩
    | otherwise helse hrun => exact ⟨_, _, rfl, hloop.iterations_le rfl⟩

/-- A loop that never ends by itself is cut after two bodies; a loop that is left in the first one
does not notice the limit. -/
theorem signalLoops_cut :
    (∃ d, performWithin .standard 3
        (whileLoop [("maxIterations", .num (.int 2))] ⟨signalSlots continueId, [], none⟩)
        (signalContext continueId) = some (.error (.flow "flow_while_max_iterations"
          "flow/while exceeded maxIterations (2)" none), d)) ∧
      ∃ d, performWithin .standard 3
        (whileLoop [("maxIterations", .num (.int 1))] ⟨signalSlots breakId, [], none⟩)
        (signalContext breakId) = some (.ok (loopResult [] 1), d) := by
  constructor
  · have hruns : ∃ d e, performWithin .standard 3 (whileRound none ⟨[], 0⟩)
          (signalContext continueId) = some (.ok (.inl ⟨[], 1⟩), d) ∧
        performWithin .standard 3 (whileRound none ⟨[], 1⟩) d = some (.ok (.inl ⟨[], 2⟩), e) ∧
        e.cancelled = false := ⟨_, _, rfl, rfl, rfl⟩
    obtain ⟨d, e, hfirst, hsecond, he⟩ := hruns
    obtain ⟨first, hfirst⟩ := exists_round hfirst
    obtain ⟨second, hsecond⟩ := exists_round hsecond
    obtain ⟨first, rfl, -⟩ := hfirst.of_inl
    obtain ⟨second, rfl, -⟩ := hsecond.of_inl
    have hrounds := GoesOn.next hfirst (.next hsecond (.here _ e))
    obtain ⟨-, hcut, -⟩ := @limit_cuts_loop .standard 3 2 (signalContext continueId) []
      [("maxIterations", .num (.int 2))] [] ⟨signalSlots continueId, [], none⟩ (.int 2) rfl rfl rfl
      rfl rfl (by decide) (by decide)
    obtain ⟨-, -, hfails⟩ := hcut _ _ e hrounds rfl he
    obtain ⟨-, hfails⟩ := hfails 3 (by decide) (by decide)
    exact ⟨e, hfails⟩
  · have hends : ∃ d e, performWithin .standard 3 (whileRound none ⟨[], 0⟩)
          (signalContext breakId) = some (.ok (.inr ⟨[], 1⟩), d) ∧
        performWithin .standard 3 (whileLoop [] ⟨signalSlots breakId, [], none⟩)
          (signalContext breakId) = some (.ok (loopResult [] 1), e) := ⟨_, _, rfl, rfl⟩
    obtain ⟨d, e, hleft, hfree⟩ := hends
    have hback : ¬ ComesBack (callWithin .standard 3) ⟨[], 0⟩ (signalContext breakId) 1 := by
      rintro ⟨rounds, q, f, hrounds, hq, -⟩
      cases hrounds with
      | here => cases hq
      | next hround _ => cases hround.performs.symm.trans hleft
    obtain ⟨hsame, -⟩ := @limit_cuts_loop .standard 3 1 (signalContext breakId) []
      [("maxIterations", .num (.int 1))] [] ⟨signalSlots breakId, [], none⟩ (.int 1) rfl rfl rfl
      rfl rfl (by decide) (by decide)
    exact ⟨e, (hsame hback).trans hfree⟩

end Engine

end StepFlow
