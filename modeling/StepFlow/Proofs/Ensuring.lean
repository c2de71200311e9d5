import StepFlow.Proofs.Moves

/-
  StepFlow.Proofs.Ensuring
  ────────────────────────
  What computations and programs ensure.

  `Run.Ensures` is a triple: started in a context that has certain frames, a
  computation leaves those frames and the open scopes as they were, and its result
  is a good one.  If the computation has to end, it is also said to have a result at
  all.

  `Program.Ensures` says the same of a program without running it, from what it
  may ask for and what it may count on in the answers.  `perform_ensures` joins the
  two: a program run by a handler that keeps these promises ensures what it says.
-/

namespace StepFlow

/-! ## §1. Contexts -/

/-- A context with these frames.  It is cancelled, or has a clock that may cancel it, only if
that has to be reckoned with. -/
structure Context.Fits (cancels : Prop) (frames : List Frame) (c : Context) : Prop where
  frames : c.frames = frames
  cancelled : c.cancelled = true → cancels
  clock : c.clock ≠ none → cancels

namespace Context.Fits

variable {cancels : Prop} {frames : List Frame} {c : Context}

theorem record (h : c.Fits cancels frames) (e : Event) : (c.record e).Fits cancels frames :=
  { h with }

theorem recordAll (h : c.Fits cancels frames) (es : List Event) :
    (c.recordAll es).Fits cancels frames := by
  induction es generalizing c with
  | nil => exact h
  | cons e es ih => exact ih (h.record e)

theorem openScope (h : c.Fits cancels frames) : c.openScope.Fits cancels frames :=
  { h with }

/-- Where nothing was registered with the innermost scope, closing it sets no flag. -/
theorem closeScope (h : c.Fits cancels frames) {rest : List Scope} (hc : c.inner = [] :: rest) :
    c.closeScope.Fits cancels frames := by
  rw [closeScope_eq hc, List.any_nil, Bool.or_false]
  exact { h with }

/-- Only a clock that runs down sets the flag. -/
theorem tick (h : c.Fits cancels frames) : c.tick.Fits cancels frames := by
  unfold Context.tick
  split
  · exact h
  · split
    · exact h
    · next hclock =>
        have hcancels : cancels := h.clock (by simp [hclock])
        exact ⟨h.frames, fun _ => hcancels, fun _ => hcancels⟩
    · next hclock =>
        have hcancels : cancels := h.clock (by simp [hclock])
        exact ⟨h.frames, h.cancelled, fun _ => hcancels⟩

theorem pushFrame (h : c.Fits cancels frames) (frame : Frame) :
    (c.pushFrame frame).Fits cancels (frame :: frames) :=
  { h with frames := congrArg (frame :: ·) h.frames }

theorem popFrame {frame : Frame} (h : c.Fits cancels (frame :: frames)) :
    c.popFrame.Fits cancels frames := by
  refine { h with frames := ?_ }
  show c.frames.tail = frames
  rw [h.frames]
  rfl

end Context.Fits

/-! ## §2. Computations -/

namespace Run

variable {α β σ : Type} {total cancels : Prop} {frames : List Frame}

/-- Started in a context that fits, a computation ends in one that fits and has the same scopes,
with a result that satisfies `post`; if it has to end, it does. -/
def Ensures (total cancels : Prop) (frames : List Frame) (m : Run α) (post : α → Prop) : Prop :=
  ∀ c : Context, c.Fits cancels frames → (total → m c ≠ none) ∧
    ∀ a d, m c = some (a, d) → post a ∧ d.Fits cancels frames ∧ d.inner = c.inner

theorem Ensures.pure {post : α → Prop} {a : α} (ha : post a) :
    Ensures total cancels frames (pure a) post := by
  refine fun c hc => ⟨fun _ => nofun, fun b d h => ?_⟩
  obtain ⟨rfl, rfl⟩ := pure_eq_some.mp h
  exact ⟨ha, hc, rfl⟩

theorem Ensures.exhausted (htotal : ¬ total) {post : α → Prop} :
    Ensures total cancels frames exhausted post :=
  fun _ _ => ⟨fun h => (htotal h).elim, nofun⟩

theorem Ensures.bind {m : Run α} {f : α → Run β} {mid : α → Prop} {post : β → Prop}
    (hm : Ensures total cancels frames m mid)
    (hf : ∀ a, mid a → Ensures total cancels frames (f a) post) :
    Ensures total cancels frames (m >>= f) post := by
  intro c hc
  obtain ⟨hends, hmid⟩ := hm c hc
  refine ⟨fun htotal => ?_, fun b d h => ?_⟩
  · show (m c).bind (fun p => f p.1 p.2) ≠ none
    cases hmc : m c with
    | none => exact (hends htotal hmc).elim
    | some p =>
        obtain ⟨ha, hd, -⟩ := hmid p.1 p.2 hmc
        exact (hf p.1 ha p.2 hd).1 htotal
  · obtain ⟨a, e, h₁, h₂⟩ := bind_eq_some.mp h
    obtain ⟨ha, he, hinner⟩ := hmid a e h₁
    obtain ⟨hb, hd, hinner'⟩ := (hf a ha e he).2 b d h₂
    exact ⟨hb, hd, hinner'.trans hinner⟩

theorem Ensures.modify {f : Context → Context}
    (hf : ∀ c : Context, c.Fits cancels frames → (f c).Fits cancels frames)
    (hinner : ∀ c : Context, (f c).inner = c.inner) :
    Ensures total cancels frames (modify f : Run Unit) fun _ => True := by
  refine fun c hc => ⟨fun _ => nofun, fun u d h => ?_⟩
  rw [modify_eq_some] at h
  subst h
  exact ⟨trivial, hf c hc, hinner c⟩

/-- What is read off a context that fits. -/
theorem Ensures.get :
    Ensures total cancels frames (get : Run Context) (Context.Fits cancels frames) := by
  refine fun c hc => ⟨fun _ => nofun, fun e d h => ?_⟩
  obtain ⟨rfl, rfl⟩ := get_eq_some.mp h
  exact ⟨hc, hc, rfl⟩

theorem Ensures.record (e : Event) :
    Ensures total cancels frames (record e) fun _ => True :=
  .modify (fun _ hc => hc.record e) fun _ => rfl

theorem Ensures.inScope {body : Run α} {post : α → Prop}
    (hbody : Ensures total cancels frames body post) :
    Ensures total cancels frames (inScope body) post := by
  intro c hc
  obtain ⟨hends, hpost⟩ := hbody c.openScope hc.openScope
  refine ⟨fun htotal => ?_, fun a d h => ?_⟩
  · show (body c.openScope).bind (fun p => some (p.1, p.2.closeTo c.depth)) ≠ none
    cases hb : body c.openScope with
    | none => exact (hends htotal hb).elim
    | some p => exact nofun
  · obtain ⟨e, he, rfl⟩ := inScope_eq_some.mp h
    obtain ⟨ha, hd, hinner⟩ := hpost a e he
    -- the body leaves the scope as it was opened, without cleanups
    have hopen : e.inner = [] :: c.inner := hinner
    rw [Context.closeTo_eq_closeScope hopen]
    refine ⟨ha, hd.closeScope hopen, ?_⟩
    rw [Context.closeScope_eq hopen]

theorem Ensures.inFrame {frame : Frame} {body : Run α} {post : α → Prop}
    (hbody : Ensures total cancels (frame :: frames) body post) :
    Ensures total cancels frames (inFrame frame body) post := by
  intro c hc
  obtain ⟨hends, hpost⟩ := hbody (c.pushFrame frame) (hc.pushFrame frame)
  refine ⟨fun htotal => ?_, fun a d h => ?_⟩
  · show (body (c.pushFrame frame)).bind (fun p => some (p.1, p.2.popFrame)) ≠ none
    cases hb : body (c.pushFrame frame) with
    | none => exact (hends htotal hb).elim
    | some p => exact nofun
  · obtain ⟨e, he, rfl⟩ := inFrame_eq_some.mp h
    obtain ⟨ha, hd, hinner⟩ := hpost a e he
    exact ⟨ha, hd.popFrame, hinner⟩

/-- A part that is refused once the run was cancelled, if it can be. -/
theorem Ensures.unlessCancelled {body : Run (Outcome α)} {post : Outcome α → Prop}
    (hcancelled : cancels → post (.error (.fault .cancelled)))
    (hbody : Ensures total cancels frames body post) :
    Ensures total cancels frames (unlessCancelled body) post := by
  intro c hc
  rw [unlessCancelled_apply]
  split
  · next h =>
      refine ⟨fun _ => nofun, fun a d had => ?_⟩
      cases had
      exact ⟨hcancelled (hc.tick.cancelled h), hc.tick, c.tick_inner⟩
  · have hrest := hbody _ hc.tick
    rw [c.tick_inner] at hrest
    exact hrest

/-- Rounds that keep `inv`, which also says how many rounds are left.  Where the loop has to
end, it has ended when none is left. -/
theorem Ensures.rounds {round : σ → Run (σ ⊕ β)} {inv : Nat → σ → Prop} {post : β → Prop}
    (hzero : total → ∀ s, ¬ inv 0 s)
    (hround : ∀ n s, inv (n + 1) s →
      Ensures total cancels frames (round s) (Sum.elim (inv n) post)) :
    ∀ (limit : Nat) (s : σ), inv limit s →
      Ensures total cancels frames (rounds round limit s) post := by
  intro limit
  induction limit with
  | zero =>
      intro s hs
      exact .exhausted fun htotal => hzero htotal s hs
  | succ limit ih =>
      intro s hs
      refine .bind (hround limit s hs) fun r hr => ?_
      cases r with
      | inl s => exact ih s hr
      | inr b => exact .pure hr

end Run

/-! ## §3. Programs -/

/-- What a program may ask for, and what it may count on in the answers. -/
structure Service where
  allows : Request → Prop
  promises : (r : Request) → r.Reply → Prop

/-- A program that asks only for what the service allows, and whose results satisfy `post` if
the answers are as promised.  Where it has to end, its loops take less than `limit` rounds. -/
def Program.Ensures (service : Service) (total : Prop) (limit : Nat) :
    {α : Type} → Program α → (α → Prop) → Prop
  | _, .done a, post => post a
  | _, .ask r next, post =>
      service.allows r ∧
        ∀ x, service.promises r x → (next x).Ensures service total limit post
  | _, .inScope body next, post =>
      ∃ mid, body.Ensures service total limit mid ∧
        ∀ b, mid b → (next b).Ensures service total limit post
  | _, .rounds round first next, post =>
      ∃ (inv : Nat → _ → Prop) (mid : _ → Prop), inv limit first ∧ (total → ∀ s, ¬ inv 0 s) ∧
        (∀ n s, inv (n + 1) s → (round s).Ensures service total limit (Sum.elim (inv n) mid)) ∧
        ∀ b, mid b → (next b).Ensures service total limit post

namespace Program

variable {α β : Type} {service : Service} {total : Prop} {limit : Nat}

theorem Ensures.bind {p : Program α} {f : α → Program β} {mid : α → Prop} {post : β → Prop}
    (hp : p.Ensures service total limit mid)
    (hf : ∀ a, mid a → (f a).Ensures service total limit post) :
    (p.bind f).Ensures service total limit post := by
  induction p with
  | done a => exact hf a hp
  | ask r next ih => exact ⟨hp.1, fun x hx => ih x (hp.2 x hx) hf⟩
  | inScope body next _ ih =>
      obtain ⟨inner, hbody, hnext⟩ := hp
      exact ⟨inner, hbody, fun b hb => ih b (hnext b hb) hf⟩
  | rounds round first next _ ih =>
      obtain ⟨inv, inner, hfirst, hzero, hround, hnext⟩ := hp
      exact ⟨inv, inner, hfirst, hzero, hround, fun b hb => ih b (hnext b hb) hf⟩

end Program

/-- A handler that keeps the promises of a service makes a program ensure what it says. -/
theorem Engine.perform_ensures {α : Type} {answer : (r : Request) → Run r.Reply}
    {service : Service} {total cancels : Prop} {frames : List Frame}
    (hanswer : ∀ r, service.allows r →
      Run.Ensures total cancels frames (answer r) (service.promises r))
    (limit : Nat) (p : Program α) :
    ∀ {post : α → Prop}, p.Ensures service total limit post →
      Run.Ensures total cancels frames (perform answer limit p) post := by
  induction p with
  | done a => intro post h; exact .pure h
  | ask r next ih =>
      intro post h
      exact .bind (hanswer r h.1) fun x hx => ih x (h.2 x hx)
  | inScope body next ihbody ih =>
      intro post h
      obtain ⟨mid, hbody, hnext⟩ := h
      exact .bind (.inScope (ihbody hbody)) fun b hb => ih b (hnext b hb)
  | rounds round first next ihround ih =>
      intro post h
      obtain ⟨inv, mid, hfirst, hzero, hround, hnext⟩ := h
      have hloop : Run.Ensures total cancels frames
          (Run.rounds (fun s => perform answer limit (round s)) limit first) mid :=
        .rounds hzero (fun n s hs => ihround s (hround n s hs)) limit first hfirst
      exact .bind hloop fun b hb => ih b (hnext b hb)

end StepFlow
