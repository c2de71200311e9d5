import StepFlow.Proofs.Evolution

/-
  StepFlow.Proofs.ScopeState
  ──────────────────────────
  The scopes of a run, read off its events.

  A small machine holds the open scopes and, while a scope is being closed, the
  cleanups that it still has to run.  `Evolves.steps`: the events of a run are a
  run of this machine, from the scopes at its start to the scopes at its end.

  How many scopes are open is bounded from above by the engine alone: whatever a
  function does, a sequence ends with no more scopes open than it began with
  (`runWithin_shallow`).
-/

namespace StepFlow

/-! ## §1. The machine -/

namespace Event

/-- Whether an event closes a scope or registers a cleanup: it acts on the innermost scope. -/
def actsOnScope : Event → Bool
  | .scopeClosed => true
  | .deferred _ => true
  | _ => false

/-- Whether an event says nothing about scopes and cleanups. -/
def isUnscoped : Event → Bool
  | .scopeOpened => false
  | .scopeClosed => false
  | .deferred _ => false
  | .cleaned _ => false
  | _ => true

theorem not_actsOnScope_of_isUnscoped {e : Event} (he : e.isUnscoped) : ¬ e.actsOnScope := by
  cases e <;> simp [isUnscoped, actsOnScope] at he ⊢

end Event

/-- Where the scopes stand between two events: the cleanups that a scope being closed still
has to run, and the open scopes, the innermost first. -/
structure ScopeState where
  closing : List Cleanup
  scopes : List Scope

namespace ScopeState

/-- What one event does. -/
inductive Step : ScopeState → Event → ScopeState → Prop where
  /-- A scope is opened. -/
  | opened (ss : List Scope) : Step ⟨[], ss⟩ .scopeOpened ⟨[], [] :: ss⟩
  /-- The innermost scope is closed; its cleanups come next. -/
  | closed (s : Scope) (ss : List Scope) : Step ⟨[], s :: ss⟩ .scopeClosed ⟨s, ss⟩
  /-- A cleanup is registered with the innermost scope. -/
  | deferred (k : Cleanup) (s : Scope) (ss : List Scope) :
      Step ⟨[], s :: ss⟩ (.deferred k) ⟨[], (k :: s) :: ss⟩
  /-- The next cleanup of a scope that is being closed runs. -/
  | cleaned (k : Cleanup) (ks : List Cleanup) (ss : List Scope) :
      Step ⟨k :: ks, ss⟩ (.cleaned k) ⟨ks, ss⟩
  /-- Anything else. -/
  | other {e : Event} (he : e.isUnscoped) (s : ScopeState) : Step s e s

/-- What events do, one after the other. -/
inductive Steps : ScopeState → List Event → ScopeState → Prop where
  /-- No event. -/
  | nil (s : ScopeState) : Steps s [] s
  /-- An event, and those after it. -/
  | cons {s t u : ScopeState} {e : Event} {es : List Event} (h : Step s e t)
      (h' : Steps t es u) : Steps s (e :: es) u

theorem Step.steps {s t : ScopeState} {e : Event} (h : Step s e t) : Steps s [e] t :=
  .cons h (.nil t)

theorem steps_append_iff {s u : ScopeState} {es fs : List Event} :
    Steps s (es ++ fs) u ↔ ∃ t, Steps s es t ∧ Steps t fs u := by
  induction es generalizing s with
  | nil =>
      constructor
      · intro h
        exact ⟨s, .nil s, h⟩
      · rintro ⟨t, ⟨⟩, h⟩
        exact h
  | cons e es ih =>
      constructor
      · intro h
        cases h with
        | cons h h' =>
            obtain ⟨t, h₁, h₂⟩ := ih.mp h'
            exact ⟨t, .cons h h₁, h₂⟩
      · rintro ⟨t, h₁, h₂⟩
        cases h₁ with
        | cons h h' => exact .cons h (ih.mpr ⟨t, h', h₂⟩)

theorem Steps.append {s t u : ScopeState} {es fs : List Event} (h : Steps s es t)
    (h' : Steps t fs u) : Steps s (es ++ fs) u :=
  steps_append_iff.mpr ⟨t, h, h'⟩

theorem steps_of_unscoped {es : List Event} (hes : ∀ e ∈ es, e.isUnscoped) (s : ScopeState) :
    Steps s es s := by
  induction es with
  | nil => exact .nil s
  | cons e es ih =>
      have hfirst : e.isUnscoped := hes e List.mem_cons_self
      exact .cons (.other hfirst s) (ih fun f hf => hes f (List.mem_cons_of_mem e hf))

/-- The cleanups of a scope run to the last one. -/
theorem steps_ofCleanups (cleanups : Scope) (ss : List Scope) :
    Steps ⟨cleanups, ss⟩ (Event.ofCleanups cleanups) ⟨[], ss⟩ := by
  induction cleanups with
  | nil => exact .nil _
  | cons k ks ih =>
      -- what a cleanup does to the flag, and whether it fails, is nothing to the scopes
      have hafter : ∀ e ∈ Event.afterCleanup k, e.isUnscoped := by
        intro e he
        rcases Event.of_mem_afterCleanup he with ⟨rfl, -⟩ | ⟨error, rfl⟩ <;> rfl
      rw [Event.ofCleanups_cons]
      exact .append (.cons (.cleaned k ks ss) (steps_of_unscoped hafter _)) ih

end ScopeState

/-! ## §2. Runs of the engine are runs of the machine -/

namespace Context

/-- The open scopes, the innermost first and the root last. -/
def scopes (c : Context) : List Scope :=
  c.inner ++ [c.root]

theorem length_scopes (c : Context) : c.scopes.length = c.depth := by
  simp [scopes, depth]

/-- The events of a run that began at one context and has come to another. -/
def eventsTo (c d : Context) : List Event :=
  (d.journal.take (d.journal.length - c.journal.length)).reverse

theorem eventsTo_eq_of_journal {c d : Context} {es : List Event}
    (h : d.journal = es.reverse ++ c.journal) : c.eventsTo d = es := by
  have hlength : d.journal.length - c.journal.length = es.reverse.length := by
    rw [h]
    simp
  rw [eventsTo, hlength, h]
  simp

namespace Evolves

variable {c d : Context} {es : List Event}

theorem eventsTo_eq (h : Evolves c es d) : c.eventsTo d = es :=
  eventsTo_eq_of_journal h.journal_eq

theorem isUnscoped_of_isReport {e : Event} (he : e.isReport) : e.isUnscoped := by
  cases e <;> first | rfl | cases he

theorem isUnscoped_of_isStart {e : Event} (he : e.isStart) : e.isUnscoped := by
  cases e <;> first | rfl | cases he

/-- **The events of a run are a run of the machine.** -/
theorem steps (h : Evolves c es d) :
    ScopeState.Steps ⟨[], c.scopes⟩ es ⟨[], d.scopes⟩ := by
  induction h with
  | refl c => exact .nil _
  | trans _ _ ih ih' => exact ih.append ih'
  | report c he => exact (ScopeState.Step.other (isUnscoped_of_isReport he) _).steps
  | start c he _ => exact (ScopeState.Step.other (isUnscoped_of_isStart he) _).steps
  | wait c _ left => exact .nil _
  | cancel c => exact (ScopeState.Step.other rfl _).steps
  | openScope c => exact (ScopeState.Step.opened c.scopes).steps
  | @closeScope c scope rest hc =>
      have hscopes : c.scopes = scope :: (rest ++ [c.root]) := by
        rw [scopes, hc]
        rfl
      -- one event closes the scope, the others run what was pending in it
      rw [hscopes, closeScope_eq hc]
      exact .cons (.closed scope _) (ScopeState.steps_ofCleanups scope _)
  | defer c k =>
      -- with the root if nothing else is open
      obtain ⟨root, inner⟩ := c
      cases inner with
      | nil => exact (ScopeState.Step.deferred k root []).steps
      | cons scope rest => exact (ScopeState.Step.deferred k scope (rest ++ [root])).steps
  | within frame _ ih => exact ih

end Evolves

end Context

/-! ## §3. No sequence leaves scopes open -/

namespace Context

theorem inner_closeScope (c : Context) : c.closeScope.inner = c.inner.tail := by
  cases hc : c.inner with
  | nil => rw [closeScope_eq_self hc, hc, List.tail_nil]
  | cons scope rest => rw [closeScope_eq hc, List.tail_cons]

theorem inner_closeScopes (n : Nat) :
    ∀ (c : Context), (closeScopes n c).inner = c.inner.drop n := by
  induction n with
  | zero => intro c; rfl
  | succ n ih =>
      intro c
      show (closeScopes n c.closeScope).inner = _
      rw [ih, inner_closeScope, List.drop_tail]

theorem depth_closeTo_le (c : Context) {keep : Nat} (hkeep : 0 < keep) :
    (c.closeTo keep).depth ≤ keep := by
  unfold closeTo
  rw [depth, inner_closeScopes, List.length_drop]
  unfold depth
  omega

theorem depth_tick (c : Context) : c.tick.depth = c.depth := by
  unfold tick
  split
  · rfl
  · split <;> rfl

theorem depth_recordAll (es : List Event) (c : Context) : (c.recordAll es).depth = c.depth := by
  rw [recordAll_eq]
  rfl

end Context

namespace Run

variable {α β : Type}

/-- A computation that ends with no more scopes open than it began with. -/
def Shallow (m : Run α) : Prop :=
  ∀ (c : Context) (a : α) (d : Context), m c = some (a, d) → d.depth ≤ c.depth

theorem Shallow.pure (a : α) : Shallow (pure a : Run α) := by
  intro c b d h
  obtain ⟨-, rfl⟩ := pure_eq_some.mp h
  exact Nat.le_refl _

theorem Shallow.modify {f : Context → Context} (hf : ∀ c, (f c).depth ≤ c.depth) :
    Shallow (modify f : Run Unit) := by
  intro c u d h
  rw [modify_eq_some] at h
  exact h ▸ hf c

theorem Shallow.bind {m : Run α} {f : α → Run β} (hm : Shallow m) (hf : ∀ a, Shallow (f a)) :
    Shallow (m >>= f) := by
  intro c b d h
  obtain ⟨a, e, h₁, h₂⟩ := bind_eq_some.mp h
  exact Nat.le_trans (hf a e b d h₂) (hm c a e h₁)

theorem Shallow.unlessCancelled {body : Run (Outcome α)} (hbody : Shallow body) :
    Shallow (unlessCancelled body) := by
  intro c a d h
  rw [unlessCancelled_apply] at h
  -- both cases begin once time has passed, which leaves the scopes alone
  rw [← c.depth_tick]
  split at h
  · cases h
    exact Nat.le_refl _
  · exact hbody _ a d h

/-- A part in a scope of its own is shallow whatever it does: the scopes that it leaves open
are closed afterwards. -/
theorem Shallow.inScope (body : Run α) : Shallow (inScope body) := by
  intro c a d h
  obtain ⟨e, -, rfl⟩ := inScope_eq_some.mp h
  exact e.depth_closeTo_le (Nat.succ_pos _)

theorem Shallow.inFrame (frame : Frame) {body : Run α} (hbody : Shallow body) :
    Shallow (inFrame frame body) := by
  intro c a d h
  obtain ⟨e, he, rfl⟩ := inFrame_eq_some.mp h
  exact hbody (c.pushFrame frame) a e he

end Run

namespace Engine

variable {caller : Caller}

theorem skipped_shallow (sources : List Value) :
    Run.Shallow (modify fun c => c.recordAll (sources.map .spreadSkipped)) :=
  .modify fun c => Nat.le_of_eq (c.depth_recordAll _)

theorem keepStep_shallow (vars : State) (index : Nat) (step : Step) (state : State) :
    Run.Shallow (keepStep caller vars index step state) := by
  have hcall : Run.Shallow (callStep caller vars index step state) :=
    .unlessCancelled (.bind (.modify fun _ => Nat.le_refl _) fun _ =>
      .bind (skipped_shallow _) fun _ => .inFrame _ (.inScope _))
  refine .bind hcall fun result => ?_
  cases result with
  | error i => exact .pure _
  | ok v => exact .bind (skipped_shallow _) fun _ => .pure _

/-- **A sequence leaves no scopes open**, whatever the functions of its steps do. -/
theorem runWithin_shallow (registry : Registry) (limit : Nat) (steps : List Step)
    (state vars : State) : Run.Shallow (runWithin registry limit steps state vars) := by
  show Run.Shallow (runStepsFrom _ vars 0 steps state)
  generalize 0 = index
  induction steps generalizing index state with
  | nil => exact .pure _
  | cons step rest ih =>
      -- the scope around the call is what bounds the depth, not the call itself
      rw [runStepsFrom, runStep_eq_keepStep (callWithin_evolves registry limit)]
      refine .bind (keepStep_shallow vars index step state) fun r => ?_
      cases r with
      | ok state => exact ih state (index + 1)
      | error i => exact .pure _

end Engine

end StepFlow
