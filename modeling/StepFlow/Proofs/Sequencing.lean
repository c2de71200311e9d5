import Mathlib.Data.List.Forall2
import StepFlow.Builtin
import StepFlow.Proofs.WriteOnly
import StepFlow.Proofs.Cancellation

/-
  StepFlow.Proofs.Sequencing
  ──────────────────────────
  Running a sequence in two parts.

  A sequence can be divided anywhere: the outcome is that of its first part run by
  itself and, if that has a state, of its second part from there.  So is the context,
  scopes with their cleanups, frames, flag, clock and journal.  One number alone tells
  the difference: a step of the second part is reported under the place it has in the
  sequence that is run, and that place lies further on in the whole one.

  The numbers of steps are written into the journal, and no run looks at the journal
  (`callWithin_blind`), so a run whose steps count from further on goes the same way
  (`runStepsFrom_shifted`, by induction on the steps).  `runWithin_append` puts that
  together with the division of the loop itself (`runStepsFrom_append`).
-/

namespace StepFlow

/-! ## §1. Journals that differ in step numbers -/

/-- Two events are the same, or they are the start of one step under two numbers, the second
one so much larger. -/
inductive Event.Shifted (k : Nat) : Event → Event → Prop where
  /-- The same event. -/
  | same (e : Event) : Shifted k e e
  /-- A step that stands so many places further on. -/
  | step (index : Nat) (call : String) :
      Shifted k (.stepStarted index call) (.stepStarted (index + k) call)

namespace Context

/-- The context without its journal. -/
def unwritten (c : Context) : Context :=
  { c with journal := [] }

/-- Two contexts are the same, but for the numbers of some steps in the journal. -/
structure SameButNumbers (k : Nat) (c d : Context) : Prop where
  /-- Scopes, frames, flag, clock and level are the same. -/
  unwritten : c.unwritten = d.unwritten
  /-- So are the events, one by one, but for these numbers. -/
  journal : List.Forall₂ (Event.Shifted k) c.journal d.journal

theorem unwritten_after (c : Context) : c.unwritten.after c.journal = c :=
  rfl

namespace SameButNumbers

variable {k : Nat} {c d : Context}

theorem refl (c : Context) : c.SameButNumbers k c :=
  ⟨rfl, List.forall₂_same.mpr fun e _ => .same e⟩

/-- The same things happen in both. -/
theorem after (h : c.SameButNumbers k d) (e : Context) :
    (e.after c.journal).SameButNumbers k (e.after d.journal) :=
  ⟨rfl, List.rel_append (List.forall₂_same.mpr fun e _ => .same e) h.journal⟩

/-- The next step starts in both, further on in the second one. -/
theorem stepStarted (h : c.SameButNumbers k d) (index : Nat) (call : String) :
    (c.record (.stepStarted index call)).SameButNumbers k
      (d.record (.stepStarted (index + k) call)) :=
  ⟨h.unwritten, .cons (.step index call) h.journal⟩

/-- What does not tell the number of a step is the same in both journals. -/
theorem filterMap_journal {α : Type} {view : Event → Option α}
    (hview : ∀ {e f : Event}, e.Shifted k f → view e = view f) (h : c.SameButNumbers k d) :
    c.journal.filterMap view = d.journal.filterMap view := by
  obtain ⟨-, hjournal⟩ := h
  generalize c.journal = es at hjournal ⊢
  generalize d.journal = fs at hjournal ⊢
  induction hjournal with
  | nil => rfl
  | cons he _ ih => rw [List.filterMap_cons, List.filterMap_cons, hview he, ih]

/-- Both contexts leave the same values for the caller to see. -/
theorem values_eq (h : c.SameButNumbers k d) :
    c.journal.filterMap Event.value? = d.journal.filterMap Event.value? :=
  h.filterMap_journal fun he => by cases he <;> rfl

/-- Both contexts hold the same log records. -/
theorem logRecords_eq (h : c.SameButNumbers k d) :
    c.journal.filterMap Event.logRecord? = d.journal.filterMap Event.logRecord? :=
  h.filterMap_journal fun he => by cases he <;> rfl

end SameButNumbers

end Context

/-! ## §2. Runs whose steps count from further on -/

namespace Run

variable {α β : Type} {k : Nat}

/-- From contexts that are the same but for step numbers, two computations come to the same
end in such contexts, or neither has a result. -/
def Shifted (k : Nat) (m n : Run α) : Prop :=
  ∀ c d : Context, c.SameButNumbers k d →
    Option.Rel (fun p q => p.1 = q.1 ∧ p.2.SameButNumbers k q.2) (m c) (n d)

theorem Shifted.pure (a : α) : Shifted k (pure a : Run α) (pure a) := by
  intro c d h
  exact .some ⟨rfl, h⟩

theorem Shifted.bind {m n : Run α} {f g : α → Run β} (hm : Shifted k m n)
    (hf : ∀ a, Shifted k (f a) (g a)) : Shifted k (m >>= f) (n >>= g) := by
  intro c d h
  rw [bind_apply, bind_apply]
  match m c, n d, hm c d h with
  | none, none, .none => exact .none
  | some (a, c'), some (_, d'), .some ⟨rfl, h'⟩ => exact hf a c' d' h'

/-- A computation that does not look at the journal goes the same way from both. -/
theorem Blind.shifted {m : Run α} (hm : Blind m) : Shifted k m m := by
  intro c d h
  rw [← c.unwritten_after, ← d.unwritten_after, hm, hm, h.unwritten]
  cases m d.unwritten with
  | none => exact .none
  | some p => exact .some ⟨rfl, h.after p.2⟩

/-- A part that starts in time in one of the two starts in the other as well. -/
theorem Shifted.unlessCancelled {m n : Run (Outcome α)} (h : Shifted k m n) :
    Shifted k (unlessCancelled m) (unlessCancelled n) := by
  have htick : Shifted k (modify Context.tick : Run Unit) (modify Context.tick) :=
    Blind.shifted (.modify Context.tick_blind)
  refine htick.bind fun _ => ?_
  intro c d hcd
  have hflag : c.unwritten.cancelled = d.unwritten.cancelled := by rw [hcd.unwritten]
  rw [get_bind_apply, get_bind_apply, show c.cancelled = d.cancelled from hflag]
  split
  · exact .some ⟨rfl, hcd⟩
  · exact h c d hcd

end Run

namespace Engine

variable {k : Nat}

section Steps

variable {caller : Caller} (hmoves : ∀ id input site, Run.Evolving (caller id input site))
  (hcaller : ∀ id input site, Run.Blind (caller id input site))

include hcaller in
/-- A step goes the same way under a number that is larger. -/
theorem callStep_shifted (vars : State) (index : Nat) (step : Step) (state : State) :
    Run.Shifted k (callStep caller vars index step state)
      (callStep caller vars (index + k) step state) := by
  have hnumber : Run.Shifted k (Run.record (.stepStarted index step.call))
      (Run.record (.stepStarted (index + k) step.call)) := by
    intro c d h
    exact .some ⟨rfl, h.stepStarted index step.call⟩
  exact .unlessCancelled (hnumber.bind fun _ => (inStep_blind hcaller vars step state).shifted)

include hmoves hcaller

/-- So do steps, one after the other. -/
theorem runStepsFrom_shifted (vars : State) (steps : List Step) :
    ∀ (index : Nat) (state : State),
      Run.Shifted k (runStepsFrom caller vars index steps state)
        (runStepsFrom caller vars (index + k) steps state) := by
  induction steps with
  | nil =>
      intro index state
      exact .pure _
  | cons step rest ih =>
      intro index state
      have hstep : Run.Shifted k (runStep caller vars index step state)
          (runStep caller vars (index + k) step state) := by
        rw [runStep_eq_keepStep hmoves, runStep_eq_keepStep hmoves]
        exact (callStep_shifted hcaller vars index step state).bind fun result =>
          (mergeStep_blind step state result).shifted
      refine hstep.bind fun r => ?_
      cases r with
      | ok next =>
          -- the next step has the next number, on both sides
          have hnext : Run.Shifted k (runStepsFrom caller vars (index + 1) rest next)
              (runStepsFrom caller vars (index + 1 + k) rest next) := ih (index + 1) next
          rw [Nat.add_right_comm] at hnext
          exact hnext
      | error i => exact .pure _

end Steps

/-! ## §3. A sequence in two parts -/

variable (registry : Registry) (limit : Nat)

/-- Run two sequences in turn, each by itself: the second one from the state of the first one,
if that has one. -/
def runInTurn (xs ys : List Step) (state vars : State) : Run (Outcome State) := do
  match ← runWithin registry limit xs state vars with
  | .ok reached => runWithin registry limit ys reached vars
  | .error i => return .error i

/-- **A sequence may be run in two parts.**  Two sequences in turn come to the same end as one
after the other in one sequence, and one run has a result within the limit if the other one has.
They leave the same context: scopes with their cleanups, frames, flag and clock are equal, and so
are the events, but for the numbers under which the steps of the second part are told.  These
do not concern what functions record: the values and the log records are the same.  If the first
part is interrupted, that is the end of the whole sequence, in that very context, so no step of
the second part has started. -/
theorem runWithin_append (xs ys : List Step) (state vars : State) (c : Context) :
    Option.Rel (fun p q => p.1 = q.1 ∧ p.2.SameButNumbers xs.length q.2 ∧
          p.2.journal.filterMap Event.value? = q.2.journal.filterMap Event.value? ∧
          p.2.journal.filterMap Event.logRecord? = q.2.journal.filterMap Event.logRecord?)
        (runInTurn registry limit xs ys state vars c)
        (runWithin registry limit (xs ++ ys) state vars c) ∧
      ∀ (i : Interrupt) (d : Context),
        runWithin registry limit xs state vars c = some (.error i, d) →
          runWithin registry limit (xs ++ ys) state vars c = some (.error i, d) := by
  have hwhole : runWithin registry limit (xs ++ ys) state vars c =
      (runWithin registry limit xs state vars c).bind fun p =>
        match p.1 with
        | .ok reached => runStepsFrom (callWithin registry limit) vars xs.length ys reached p.2
        | .error i => some (.error i, p.2) := by
    show runStepsFrom _ vars 0 (xs ++ ys) state c = _
    rw [runStepsFrom_append, Run.bind_apply, Nat.zero_add]
    congr 1
    funext p
    cases p.1 <;> rfl
  -- what tells no step number is the same in contexts that are the same but for these
  have hrecorded : ∀ {o o' : Option (Outcome State × Context)},
      Option.Rel (fun p q => p.1 = q.1 ∧ p.2.SameButNumbers xs.length q.2) o o' →
      Option.Rel (fun p q => p.1 = q.1 ∧ p.2.SameButNumbers xs.length q.2 ∧
        p.2.journal.filterMap Event.value? = q.2.journal.filterMap Event.value? ∧
        p.2.journal.filterMap Event.logRecord? = q.2.journal.filterMap Event.logRecord?) o o' := by
    intro o o' h
    cases h with
    | none => exact .none
    | some hsame => exact .some ⟨hsame.1, hsame.2, hsame.2.values_eq, hsame.2.logRecords_eq⟩
  rw [hwhole, runInTurn, Run.bind_apply]
  cases runWithin registry limit xs state vars c with
  | none => exact ⟨.none, fun i d h => nomatch h⟩
  | some p =>
      obtain ⟨outcome, d⟩ := p
      cases outcome with
      | ok reached =>
          -- by itself the second part counts its steps from zero
          have hrest := runStepsFrom_shifted (k := xs.length) (callWithin_evolves registry limit)
            (callWithin_blind registry limit) vars ys 0 reached d d (.refl d)
          rw [Nat.zero_add] at hrest
          exact ⟨hrecorded hrest, fun i d h => nomatch h⟩
      | error i => exact ⟨hrecorded (.some ⟨rfl, .refl d⟩), fun i d h => h⟩

/-- The second step throws, so the signal of the third one is never raised. -/
theorem setThrowBreak_append :
    ∃ d, runWithin .standard 1 [.ofCall Builtin.setId, .ofCall Flow.throwId] [] []
        (.start .info false none) =
          some (.error (.fault (.flow ⟨"flow_throw", "Flow throw", none⟩)), d) ∧
      runWithin .standard 1
        ([.ofCall Builtin.setId, .ofCall Flow.throwId] ++ [.ofCall Flow.breakId]) [] []
        (.start .info false none) =
          some (.error (.fault (.flow ⟨"flow_throw", "Flow throw", none⟩)), d) :=
  ⟨_, rfl, (runWithin_append .standard 1 _ [.ofCall Flow.breakId] [] [] _).2 _ _ rfl⟩

end Engine

end StepFlow
