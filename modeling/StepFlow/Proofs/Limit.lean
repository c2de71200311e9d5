import StepFlow.Proofs.Moves
import StepFlow.Session

/-
  StepFlow.Proofs.Limit
  ─────────────────────
  The limit of a run decides only whether there is a result.

  `Run.Extends more m`: wherever `m` has a result, `more` has the same one.  The
  ways to put computations together keep that, so a run extends the same run
  within a smaller limit, over any registry.  A report of a run is therefore a
  report of it within every larger limit (`executeWithin_mono`).
-/

namespace StepFlow

/-! ## §1. Computations with more results -/

namespace Run

variable {α β σ : Type}

/-- Wherever `m` has a result, `more` has the same one. -/
def Extends (more m : Run α) : Prop :=
  ∀ (c : Context) (p : α × Context), m c = some p → more c = some p

theorem Extends.refl (m : Run α) : Extends m m :=
  fun _ _ h => h

theorem Extends.exhausted (m : Run α) : Extends m exhausted :=
  fun _ _ h => nomatch h

theorem Extends.bind {m more : Run α} {f fmore : α → Run β} (hm : Extends more m)
    (hf : ∀ a, Extends (fmore a) (f a)) : Extends (more >>= fmore) (m >>= f) := by
  rintro c ⟨b, d⟩ h
  obtain ⟨a, e, hfirst, hrest⟩ := bind_eq_some.mp h
  exact bind_eq_some.mpr ⟨a, e, hm c _ hfirst, hf a e _ hrest⟩

/-- A first part that is the same in both. -/
theorem Extends.after {m : Run α} {f fmore : α → Run β} (hf : ∀ a, Extends (fmore a) (f a)) :
    Extends (m >>= fmore) (m >>= f) :=
  .bind (.refl m) hf

theorem Extends.inScope {body more : Run α} (h : Extends more body) :
    Extends (inScope more) (inScope body) := by
  rintro c ⟨a, d⟩ hrun
  obtain ⟨e, hbody, hclose⟩ := inScope_eq_some.mp hrun
  exact inScope_eq_some.mpr ⟨e, h _ _ hbody, hclose⟩

theorem Extends.unlessCancelled {body more : Run (Outcome α)} (h : Extends more body) :
    Extends (unlessCancelled more) (unlessCancelled body) := by
  intro c p hrun
  rw [unlessCancelled_apply] at hrun ⊢
  by_cases hc : c.tick.cancelled = true
  · rw [if_pos hc] at hrun ⊢
    exact hrun
  · rw [if_neg hc] at hrun ⊢
    exact h _ _ hrun

/-- Rounds that have more results, and more of them. -/
theorem Extends.rounds {round more : σ → Run (σ ⊕ β)} (h : ∀ s, Extends (more s) (round s)) :
    ∀ {limit larger : Nat}, limit ≤ larger → ∀ s,
      Extends (rounds more larger s) (rounds round limit s) := by
  intro limit
  induction limit with
  | zero => exact fun _ s => .exhausted _
  | succ limit ih =>
      intro larger hle s
      obtain ⟨larger, rfl⟩ : ∃ n, larger = n + 1 := ⟨larger - 1, by omega⟩
      refine .bind (h s) fun r => ?_
      cases r with
      | inl s => exact ih (by omega) s
      | inr b => exact .refl _

end Run

/-! ## §2. The engine -/

namespace Engine

section Callers

variable {caller more : Caller} (hcaller : ∀ id input site,
  Run.Extends (more id input site) (caller id input site))

include hcaller

theorem runStep_extends (vars : State) (index : Nat) (step : Step) (state : State) :
    Run.Extends (runStep more vars index step state) (runStep caller vars index step state) := by
  refine .unlessCancelled (.after fun _ => .after fun _ => .after fun _ => ?_)
  exact .bind (.inScope (hcaller _ _ _)) fun _ => .refl _

theorem runSteps_extends (steps : List Step) (state vars : State) :
    Run.Extends (runSteps more steps state vars) (runSteps caller steps state vars) := by
  unfold runSteps
  generalize 0 = index
  induction steps generalizing index state with
  | nil => exact .refl _
  | cons step rest ih =>
      refine .bind (runStep_extends hcaller _ _ _ _) fun r => ?_
      cases r with
      | ok next => exact ih next _
      | error i => exact .refl _

theorem runChildren_extends (steps : List Step) (state vars : Option State) :
    Run.Extends (runChildren more steps state vars) (runChildren caller steps state vars) := by
  refine .unlessCancelled (.after fun c => ?_)
  cases c.frames with
  | nil => exact .refl _
  | cons frame rest => exact .inScope (runSteps_extends hcaller _ _ _)

theorem runSlot_extends (name : String) (state vars : Option State) :
    Run.Extends (runSlot more name state vars) (runSlot caller name state vars) := by
  refine .unlessCancelled (.after fun c => ?_)
  cases c.frames with
  | nil => exact .refl _
  | cons frame rest => exact .after fun _ => .inScope (runSteps_extends hcaller _ _ _)

end Callers

section Invokers

variable {registry : Registry} {invoker more : Invoker} (hinvoker : ∀ entry input site,
  Run.Extends (more entry input site) (invoker entry input site))

include hinvoker

theorem invoke_extends (id : String) (input : State) (site : CallSite) :
    Run.Extends (invoke registry more id input site) (invoke registry invoker id input site) := by
  unfold invoke
  cases registry.resolve id with
  | error e => exact .refl _
  | ok found =>
      dsimp only
      cases found.contract with
      | none => exact hinvoker _ _ _
      | some contract => exact .after fun _ => hinvoker _ _ _

theorem call_extends (id : String) (input : State) (site : CallSite) :
    Run.Extends (call registry more id input site) (call registry invoker id input site) := by
  refine .unlessCancelled (invoke_extends (fun entry input site => ?_) id input site)
  exact .after fun _ => hinvoker entry input site

theorem answer_extends : ∀ r : Request,
    Run.Extends (answer registry more r) (answer registry invoker r)
  | .call id input site => call_extends hinvoker id input site
  | .invoke id input site => invoke_extends hinvoker id input site
  | .runSlot name state vars => runSlot_extends (call_extends hinvoker) name state vars
  | .runChildren steps state vars => runChildren_extends (call_extends hinvoker) steps state vars
  | .runSteps steps state vars => runSteps_extends (call_extends hinvoker) steps state vars
  | .openScope => .refl _
  | .closeScope => .refl _
  | .depth => .refl _
  | .defer .. => .refl _
  | .cancel => .refl _
  | .isCancelled => .refl _
  | .awaitCancel => .refl _
  | .logLevel => .refl _
  | .isRegistered _ => .refl _
  | .note _ => .refl _

end Invokers

theorem perform_extends {α : Type} {answer more : (r : Request) → Run r.Reply}
    (hanswer : ∀ r, Run.Extends (more r) (answer r)) {limit larger : Nat}
    (hle : limit ≤ larger) (p : Program α) :
    Run.Extends (perform more larger p) (perform answer limit p) := by
  induction p with
  | done a => exact .refl _
  | ask r next ih => exact .bind (hanswer r) ih
  | inScope body next ihbody ih => exact .bind (.inScope ihbody) ih
  | rounds round first next ihround ih => exact .bind (.rounds ihround hle first) ih

variable (registry : Registry)

/-- Induction on the smaller limit: what a function runs, it runs within one less. -/
theorem enter_extends : ∀ {limit larger : Nat}, limit ≤ larger → ∀ entry input site,
    Run.Extends (enter registry larger entry input site)
      (enter registry limit entry input site) := by
  intro limit
  induction limit with
  | zero => exact fun _ entry input site => .exhausted _
  | succ limit ih =>
      intro larger hle entry input site
      obtain ⟨larger, rfl⟩ : ∃ n, larger = n + 1 := ⟨larger - 1, by omega⟩
      have hle : limit ≤ larger := by omega
      -- both the requests and the loops of the program run within the smaller limits
      exact .bind (perform_extends (answer_extends (ih hle)) hle _) fun _ => .refl _

theorem callWithin_extends {limit larger : Nat} (hle : limit ≤ larger) (id : String)
    (input : State) (site : CallSite) :
    Run.Extends (callWithin registry larger id input site)
      (callWithin registry limit id input site) :=
  call_extends (enter_extends registry hle) id input site

/-- **A larger limit never changes a result that is there.** -/
theorem runWithin_extends {limit larger : Nat} (hle : limit ≤ larger) (steps : List Step)
    (state vars : State) :
    Run.Extends (runWithin registry larger steps state vars)
      (runWithin registry limit steps state vars) :=
  runSteps_extends (callWithin_extends registry hle) steps state vars

end Engine

/-- A report of a run is a report of it within every larger limit. -/
theorem Session.executeWithin_mono {registry : Registry} {settings : Settings}
    {cancelled : Bool} {steps : List Step} {initial : State} {report : Report}
    {limit larger : Nat} (hle : limit ≤ larger)
    (h : executeWithin limit registry settings cancelled steps initial = some report) :
    executeWithin larger registry settings cancelled steps initial = some report := by
  unfold executeWithin at h ⊢
  dsimp only at h ⊢
  cases hrun : Engine.runWithin registry limit steps initial []
      ((context settings cancelled).record (.runStarted steps.length)) with
  | none =>
      rw [hrun] at h
      cases h
  | some p =>
      rw [hrun] at h
      rw [Engine.runWithin_extends registry hle steps initial [] _ _ hrun]
      exact h

end StepFlow
