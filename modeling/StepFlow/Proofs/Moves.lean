import StepFlow.Run.Engine

/-
  StepFlow.Proofs.Moves
  ─────────────────────
  What a run can do to a context.

  `Evolves c es d` says that a context goes from `c` to `d` by moves of a run,
  and that `es` are the events of these moves.  The moves are few: a plain
  report, the start of a part while the run is not cancelled, the passing of
  time, cancelling, the four scope operations, and a whole sequence of moves
  inside a frame that is put on and taken off again.

  What a run can never do is proved by induction on the moves.  A computation
  is `Evolving` if all it does to a context is such moves; the ways to put
  computations together keep that.
-/

namespace StepFlow

/-! ## §1. Computations on the context -/

namespace Run

variable {α β σ : Type} {c d : Context}

theorem bind_apply (m : Run α) (f : α → Run β) (c : Context) :
    (m >>= f) c = (m c).bind fun p => f p.1 p.2 := rfl

theorem bind_eq_some {m : Run α} {f : α → Run β} {b : β} :
    (m >>= f) c = some (b, d) ↔ ∃ a e, m c = some (a, e) ∧ f a e = some (b, d) := by
  show (m c).bind (fun p => f p.1 p.2) = some (b, d) ↔ _
  simp only [Option.bind_eq_some_iff, Prod.exists]

theorem get_bind_apply (f : Context → Run α) (c : Context) : (get >>= f) c = f c c := rfl

theorem pure_eq_some {a b : α} : (pure a : Run α) c = some (b, d) ↔ a = b ∧ c = d := by
  show some (a, c) = some (b, d) ↔ _
  simp

theorem modify_eq_some {f : Context → Context} {u : Unit} :
    (modify f : Run Unit) c = some (u, d) ↔ f c = d := by
  show some ((), f c) = some (u, d) ↔ _
  simp

theorem get_eq_some {e : Context} : (get : Run Context) c = some (e, d) ↔ c = e ∧ c = d := by
  show some (c, c) = some (e, d) ↔ _
  simp

/-- A part starts once time has passed, unless the run is cancelled by then. -/
theorem unlessCancelled_apply (body : Run (Outcome α)) (c : Context) :
    unlessCancelled body c =
      if c.tick.cancelled then some (.error (.fault .cancelled), c.tick) else body c.tick := by
  show (if c.tick.cancelled then (pure (.error (.fault .cancelled)) : Run (Outcome α))
    else body) c.tick = _
  split <;> rfl

theorem inScope_eq_some {body : Run α} {a : α} :
    inScope body c = some (a, d) ↔
      ∃ e, body c.openScope = some (a, e) ∧ e.closeTo c.depth = d := by
  show (body c.openScope).bind (fun p => some (p.1, p.2.closeTo c.depth)) = some (a, d) ↔ _
  simp only [Option.bind_eq_some_iff, Prod.exists, Option.some.injEq, Prod.mk.injEq]
  constructor
  · rintro ⟨b, e, h, rfl, rfl⟩
    exact ⟨e, h, rfl⟩
  · rintro ⟨e, h, rfl⟩
    exact ⟨a, e, h, rfl, rfl⟩

end Run

/-! ## §2. Events -/

namespace Event

/-- Whether an event starts a part of a run: a step, a slot, or a function that was called. -/
def isStart : Event → Bool
  | .stepStarted .. => true
  | .slotStarted .. => true
  | .entered _ => true
  | _ => false

/-- Whether an event only tells something: it goes with no change of the context, and any
time may be its time. -/
def isReport : Event → Bool
  | .noted _ => true
  | .runStarted _ => true
  | .runCompleted => true
  | .runCancelled => true
  | .runFailed _ => true
  | .runReported _ => true
  | .contractResolved .. => true
  | .spreadSkipped _ => true
  | _ => false

/-- What comes after a cleanup that ran: it may have asked the run to stop, and failed. -/
def afterCleanup (k : Cleanup) : List Event :=
  (if k.stops then [.cancelRequested] else []) ++ k.failure.toList.map .cleanupFailed

/-- The events of cleanups that run one after the other. -/
def ofCleanups (cleanups : Scope) : List Event :=
  cleanups.flatMap fun k => .cleaned k :: afterCleanup k

theorem ofCleanups_cons (k : Cleanup) (ks : Scope) :
    ofCleanups (k :: ks) = (.cleaned k :: afterCleanup k) ++ ofCleanups ks :=
  List.flatMap_cons

theorem of_mem_afterCleanup {k : Cleanup} {e : Event} (he : e ∈ afterCleanup k) :
    (e = .cancelRequested ∧ k.stops = true) ∨ ∃ error, e = .cleanupFailed error := by
  rcases List.mem_append.mp he with he | he
  · split at he
    · next hstops => exact .inl ⟨List.mem_singleton.mp he, hstops⟩
    · cases he
  · obtain ⟨error, -, rfl⟩ := List.mem_map.mp he
    exact .inr ⟨error, rfl⟩

/-- What an event of cleanups can be. -/
theorem of_mem_ofCleanups {cleanups : Scope} {e : Event} (he : e ∈ ofCleanups cleanups) :
    (∃ k, e = .cleaned k) ∨ e = .cancelRequested ∨ ∃ error, e = .cleanupFailed error := by
  obtain ⟨k, -, he⟩ := List.mem_flatMap.mp he
  rcases List.mem_cons.mp he with rfl | he
  · exact .inl ⟨k, rfl⟩
  · exact .inr ((of_mem_afterCleanup he).imp_left And.left)

theorem cancelRequested_mem_ofCleanups {cleanups : Scope} :
    .cancelRequested ∈ ofCleanups cleanups ↔ cleanups.any Cleanup.stops = true := by
  simp [ofCleanups, afterCleanup, List.any_eq_true]

end Event

/-! ## §3. The moves of a run -/

namespace Context

/-- A context goes from one form to another by moves of a run, with these events. -/
inductive Evolves : Context → List Event → Context → Prop where
  /-- Nothing happens. -/
  | refl (c : Context) : Evolves c [] c
  /-- One sequence of moves after another. -/
  | trans {a b c : Context} {es fs : List Event} (h : Evolves a es b) (h' : Evolves b fs c) :
      Evolves a (es ++ fs) c
  /-- Something is told. -/
  | report (c : Context) {e : Event} (he : e.isReport) : Evolves c [e] (c.record e)
  /-- A part starts; it would not if the run were cancelled. -/
  | start (c : Context) {e : Event} (he : e.isStart) (hc : c.cancelled = false) :
      Evolves c [e] (c.record e)
  /-- Time passes in a run that has a clock. -/
  | wait (c : Context) {before : Nat} (hc : c.clock = some before) (left : Nat) :
      Evolves c [] { c with clock := some left }
  /-- The run is asked to stop. -/
  | cancel (c : Context) : Evolves c [.cancelRequested] c.cancel
  /-- A scope is opened. -/
  | openScope (c : Context) : Evolves c [.scopeOpened] c.openScope
  /-- The innermost scope is closed; the root is not. -/
  | closeScope (c : Context) {scope : Scope} {rest : List Scope} (hc : c.inner = scope :: rest) :
      Evolves c (.scopeClosed :: Event.ofCleanups scope) c.closeScope
  /-- A cleanup is registered. -/
  | defer (c : Context) (k : Cleanup) : Evolves c [.deferred k] (c.defer k)
  /-- A frame is put on, things happen, and it is taken off. -/
  | within {c d : Context} {es : List Event} (frame : Frame)
      (h : Evolves (c.pushFrame frame) es d) : Evolves c es d.popFrame

/-- One sequence of moves after another, whatever their events are. -/
theorem exists_evolves_trans {a b c : Context} (h : ∃ es, Evolves a es b)
    (h' : ∃ es, Evolves b es c) : ∃ es, Evolves a es c := by
  obtain ⟨es, hes⟩ := h
  obtain ⟨fs, hfs⟩ := h'
  exact ⟨es ++ fs, hes.trans hfs⟩

/-! ## §4. What single operations do -/

theorem recordAll_eq (es : List Event) :
    ∀ (c : Context), c.recordAll es = { c with journal := es.reverse ++ c.journal } := by
  induction es with
  | nil => intro c; rfl
  | cons e es ih =>
      intro c
      show (c.record e).recordAll es = _
      rw [ih]
      simp [record]

theorem runCleanup_eq (c : Context) (k : Cleanup) :
    c.runCleanup k =
      { c with cancelled := c.cancelled || k.stops,
               journal := (.cleaned k :: Event.afterCleanup k).reverse ++ c.journal } := by
  obtain ⟨⟨note, failure⟩, stops⟩ := k
  cases failure <;> cases stops <;> simp [runCleanup, Event.afterCleanup, record, cancel]

theorem runCleanups_eq (cleanups : Scope) :
    ∀ (c : Context), c.runCleanups cleanups =
      { c with cancelled := c.cancelled || cleanups.any Cleanup.stops,
               journal := (Event.ofCleanups cleanups).reverse ++ c.journal } := by
  induction cleanups with
  | nil =>
      intro c
      simp [runCleanups, Event.ofCleanups]
  | cons k ks ih =>
      intro c
      -- the journal has the latest event first, so the events of `k` end up below the rest
      show (c.runCleanup k).runCleanups ks = _
      rw [ih, runCleanup_eq, Event.ofCleanups_cons]
      simp [Bool.or_assoc]

theorem closeScope_eq {c : Context} {scope : Scope} {rest : List Scope}
    (hc : c.inner = scope :: rest) :
    c.closeScope =
      { c with inner := rest, cancelled := c.cancelled || scope.any Cleanup.stops,
               journal := (.scopeClosed :: Event.ofCleanups scope).reverse ++ c.journal } := by
  simp only [closeScope, hc]
  rw [runCleanups_eq]
  simp [record]

@[simp] theorem defer_journal (c : Context) (k : Cleanup) :
    (c.defer k).journal = .deferred k :: c.journal := by
  obtain ⟨root, inner⟩ := c
  cases inner <;> rfl

@[simp] theorem defer_frames (c : Context) (k : Cleanup) : (c.defer k).frames = c.frames := by
  obtain ⟨root, inner⟩ := c
  cases inner <;> rfl

@[simp] theorem defer_cancelled (c : Context) (k : Cleanup) :
    (c.defer k).cancelled = c.cancelled := by
  obtain ⟨root, inner⟩ := c
  cases inner <;> rfl

theorem closeScope_eq_self {c : Context} (hc : c.inner = []) : c.closeScope = c := by
  simp only [closeScope, hc]

/-- What is left of a scope when all that was opened in it is closed again. -/
theorem closeTo_eq_closeScope {c d : Context} {scope : Scope} (hd : d.inner = scope :: c.inner) :
    d.closeTo c.depth = d.closeScope := by
  have hone : d.depth - c.depth = 1 := by
    rw [depth, depth, hd, List.length_cons]
    omega
  rw [closeTo, hone]
  rfl

@[simp] theorem tick_inner (c : Context) : c.tick.inner = c.inner := by
  unfold tick
  split
  · rfl
  · split <;> rfl

/-! ## §5. Laws of all moves -/

namespace Evolves

variable {c d : Context} {es : List Event}

/-- The events of the moves are what the journal gains. -/
theorem journal_eq (h : Evolves c es d) : d.journal = es.reverse ++ c.journal := by
  induction h with
  | refl c => rfl
  | trans _ _ ih ih' => rw [ih', ih, List.reverse_append, List.append_assoc]
  | report c _ => rfl
  | start c _ _ => rfl
  | wait c _ left => rfl
  | cancel c => rfl
  | openScope c => rfl
  | closeScope c hc => rw [closeScope_eq hc]
  | defer c k => exact defer_journal c k
  | within frame _ ih => exact ih

/-- Moves leave the frames as they were. -/
theorem frames_eq (h : Evolves c es d) : d.frames = c.frames := by
  induction h with
  | refl c => rfl
  | trans _ _ ih ih' => rw [ih', ih]
  | report c _ => rfl
  | start c _ _ => rfl
  | wait c _ left => rfl
  | cancel c => rfl
  | openScope c => rfl
  | closeScope c hc => rw [closeScope_eq hc]
  | defer c k => exact defer_frames c k
  | within frame _ ih =>
      -- the frame on top is the one that was put on, so taking it off restores the rest
      show List.tail _ = _
      rw [ih]
      rfl

end Evolves

/-! ## §6. Operations made of moves -/

theorem tick_evolves (c : Context) : ∃ es, Evolves c es c.tick := by
  unfold tick
  split
  · exact ⟨[], .refl c⟩
  · split
    · exact ⟨[], .refl c⟩
    · exact ⟨_, .cancel c⟩
    · next left hleft => exact ⟨[], .wait c hleft left⟩

theorem awaitCancel_evolves {c d : Context} (h : c.awaitCancel = some d) :
    ∃ es, Evolves c es d := by
  unfold awaitCancel at h
  split at h
  · cases h
    exact ⟨[], .refl c⟩
  · split at h
    · cases h
    · next left hleft =>
        cases h
        exact ⟨_, .trans (.wait c hleft 0) (.cancel _)⟩

theorem recordAll_evolves (es : List Event) (hes : ∀ e ∈ es, e.isReport) :
    ∀ (c : Context), Evolves c es (c.recordAll es) := by
  induction es with
  | nil => intro c; exact .refl c
  | cons e es ih =>
      intro c
      have hrest : ∀ e ∈ es, e.isReport := fun e' he' => hes e' (List.mem_cons_of_mem e he')
      exact .trans (.report c (hes e List.mem_cons_self)) (ih hrest (c.record e))

theorem closeScope_evolves (c : Context) : ∃ es, Evolves c es c.closeScope := by
  cases hc : c.inner with
  | nil =>
      rw [closeScope_eq_self hc]
      exact ⟨[], .refl c⟩
  | cons scope rest => exact ⟨_, .closeScope c hc⟩

theorem closeScopes_evolves (n : Nat) : ∀ (c : Context), ∃ es, Evolves c es (closeScopes n c) := by
  induction n with
  | zero => intro c; exact ⟨[], .refl c⟩
  | succ n ih =>
      intro c
      exact exists_evolves_trans (closeScope_evolves c) (ih c.closeScope)

@[simp] theorem tick_frames (c : Context) : c.tick.frames = c.frames := by
  obtain ⟨es, h⟩ := tick_evolves c
  exact h.frames_eq

@[simp] theorem closeScope_frames (c : Context) : c.closeScope.frames = c.frames := by
  obtain ⟨es, h⟩ := closeScope_evolves c
  exact h.frames_eq

@[simp] theorem closeTo_frames (c : Context) (keep : Nat) : (c.closeTo keep).frames = c.frames := by
  obtain ⟨es, h⟩ := closeScopes_evolves (c.depth - keep) c
  exact h.frames_eq

end Context

/-! ## §7. Computations made of moves -/

namespace Run

variable {α β σ : Type}

/-- A computation that changes the context by moves only. -/
def Evolving (m : Run α) : Prop :=
  ∀ (c : Context) (a : α) (d : Context), m c = some (a, d) → ∃ es, c.Evolves es d

theorem Evolving.pure (a : α) : Evolving (pure a : Run α) := by
  intro c b d h
  obtain ⟨-, rfl⟩ := pure_eq_some.mp h
  exact ⟨[], .refl c⟩

theorem Evolving.exhausted : Evolving (exhausted : Run α) := by
  intro c a d h
  cases h

theorem Evolving.get : Evolving (get : Run Context) := by
  intro c e d h
  obtain ⟨-, rfl⟩ := get_eq_some.mp h
  exact ⟨[], .refl c⟩

theorem Evolving.modify {f : Context → Context} (hf : ∀ c, ∃ es, Context.Evolves c es (f c)) :
    Evolving (modify f : Run Unit) := by
  intro c u d h
  rw [modify_eq_some] at h
  exact h ▸ hf c

theorem Evolving.bind {m : Run α} {f : α → Run β} (hm : Evolving m)
    (hf : ∀ a, Evolving (f a)) : Evolving (m >>= f) := by
  intro c b d h
  obtain ⟨a, e, h₁, h₂⟩ := bind_eq_some.mp h
  exact Context.exists_evolves_trans (hm c a e h₁) (hf a e b d h₂)

theorem Evolving.record {e : Event} (he : e.isReport) : Evolving (record e) :=
  .modify fun c => ⟨[e], .report c he⟩

/-- A computation that makes moves only, if the run is not cancelled when it begins. -/
def EvolvingActive (m : Run α) : Prop :=
  ∀ (c : Context) (a : α) (d : Context), c.cancelled = false → m c = some (a, d) →
    ∃ es, c.Evolves es d

theorem Evolving.active {m : Run α} (hm : Evolving m) : EvolvingActive m :=
  fun c a d _ => hm c a d

/-- What starts with the start of a part. -/
theorem EvolvingActive.start {e : Event} (he : e.isStart) {m : Run α} (hm : Evolving m) :
    EvolvingActive (do record e; m) := by
  intro c a d hc h
  obtain ⟨u, e', hrecord, h⟩ := bind_eq_some.mp h
  obtain rfl := modify_eq_some.mp hrecord
  obtain ⟨es, hes⟩ := hm _ _ _ h
  exact ⟨e :: es, (Context.Evolves.start c he hc).trans hes⟩

/-- What starts with a report. -/
theorem EvolvingActive.report {e : Event} (he : e.isReport) {m : Run α}
    (hm : EvolvingActive m) : EvolvingActive (do record e; m) := by
  intro c a d hc h
  obtain ⟨u, e', hrecord, h⟩ := bind_eq_some.mp h
  obtain rfl := modify_eq_some.mp hrecord
  obtain ⟨es, hes⟩ := hm (c.record e) a d hc h
  exact ⟨e :: es, (Context.Evolves.report c he).trans hes⟩

theorem Evolving.unlessCancelled {body : Run (Outcome α)} (hbody : EvolvingActive body) :
    Evolving (unlessCancelled body) := by
  intro c a d h
  -- the time that passes first may set the flag itself
  rw [unlessCancelled_apply] at h
  split at h
  · cases h
    exact c.tick_evolves
  · next hc =>
      have hrest := hbody _ _ _ (Bool.eq_false_iff.mpr hc) h
      exact Context.exists_evolves_trans c.tick_evolves hrest

theorem Evolving.inScope {body : Run α} (hbody : Evolving body) : Evolving (inScope body) := by
  intro c a d h
  obtain ⟨e, he, rfl⟩ := inScope_eq_some.mp h
  obtain ⟨es, hes⟩ := hbody _ _ _ he
  -- what the body left open is closed one scope at a time
  obtain ⟨fs, hfs⟩ := Context.closeScopes_evolves (e.depth - c.depth) e
  exact ⟨_, (Context.Evolves.openScope c).trans (hes.trans hfs)⟩

/-- Run a part in a frame, which is taken off again afterwards. -/
def inFrame (frame : Frame) (body : Run α) : Run α := do
  modify fun c => c.pushFrame frame
  let a ← body
  modify Context.popFrame
  return a

theorem inFrame_eq_some {frame : Frame} {body : Run α} {c d : Context} {a : α} :
    inFrame frame body c = some (a, d) ↔
      ∃ e, body (c.pushFrame frame) = some (a, e) ∧ e.popFrame = d := by
  simp only [inFrame, bind_eq_some, modify_eq_some, pure_eq_some]
  constructor
  · rintro ⟨-, -, rfl, b, e, h, -, -, rfl, rfl, rfl⟩
    exact ⟨e, h, rfl⟩
  · rintro ⟨e, h, rfl⟩
    exact ⟨(), _, rfl, a, e, h, (), _, rfl, rfl, rfl⟩

theorem Evolving.inFrame (frame : Frame) {body : Run α} (hbody : Evolving body) :
    Evolving (inFrame frame body) := by
  intro c a d h
  obtain ⟨e, he, rfl⟩ := inFrame_eq_some.mp h
  obtain ⟨es, hes⟩ := hbody _ _ _ he
  exact ⟨es, .within frame hes⟩

theorem Evolving.rounds {round : σ → Run (σ ⊕ β)} (hround : ∀ s, Evolving (round s)) :
    ∀ (limit : Nat) (s : σ), Evolving (rounds round limit s) := by
  intro limit
  -- on the number of rounds that are left
  induction limit with
  | zero => intro s; exact .exhausted
  | succ limit ih =>
      intro s
      refine .bind (hround s) fun r => ?_
      cases r with
      | inl s => exact ih s
      | inr b => exact .pure b

end Run

end StepFlow
