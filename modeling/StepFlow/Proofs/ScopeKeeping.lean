import StepFlow.Proofs.Cleanup

/-
  StepFlow.Proofs.ScopeKeeping
  ────────────────────────────
  What a part in a scope of its own does to the scopes of its caller.

  `inScope` remembers how many scopes were open and closes what is open beyond
  that.  It does not stop the part from closing more scopes than it opened, down
  to the root, nor from registering a cleanup once its own scope is closed: both
  then act on a scope of the caller (`closeTwo_closes_caller_scope`).

  `inScope_keepsScopes_iff` gives the exact condition.  The caller's scopes are
  kept, with what is pending in them, if and only if at every moment at which the
  part closes a scope or registers a cleanup some scope opened since is still open.
-/

namespace StepFlow

/-! ## §1. Scopes opened since -/

namespace Event

/-- How many scopes of its own a part has open after an event; `none` if the event closed a
scope that was not its own. -/
def ownAfter (own : Nat) : Event → Option Nat
  | .scopeOpened => some (own + 1)
  | .scopeClosed =>
      match own with
      | 0 => none
      | n + 1 => some n
  | _ => some own

/-- How many scopes of its own a part has open after events. -/
def ownOpen (own : Nat) (es : List Event) : Option Nat :=
  es.foldlM ownAfter own

/-- Whenever a scope is closed or a cleanup is registered, the part has a scope of its own
open. -/
def ActsInside (own : Nat) (es : List Event) : Prop :=
  ∀ pre e post, es = pre ++ e :: post → e.actsOnScope → ∃ n, ownOpen own pre = some (n + 1)

theorem ownOpen_cons (own : Nat) (e : Event) (es : List Event) :
    ownOpen own (e :: es) = (ownAfter own e).bind fun n => ownOpen n es :=
  List.foldlM_cons

theorem ownOpen_append (own : Nat) (es fs : List Event) :
    ownOpen own (es ++ fs) = (ownOpen own es).bind fun n => ownOpen n fs :=
  List.foldlM_append

theorem actsInside_nil (own : Nat) : ActsInside own [] := by
  intro pre e post h
  cases pre <;> cases h

/-- The condition, event by event. -/
theorem actsInside_cons_iff {own : Nat} {e : Event} {es : List Event} :
    ActsInside own (e :: es) ↔
      (e.actsOnScope → 0 < own) ∧ ∀ n ∈ ownAfter own e, ActsInside n es := by
  constructor
  · intro h
    refine ⟨fun he => ?_, fun n hn pre f post hes hf => ?_⟩
    · obtain ⟨n, hn⟩ := h [] e es rfl he
      obtain rfl : own = n + 1 := Option.some.inj hn
      exact Nat.succ_pos n
    · obtain ⟨m, hm⟩ := h (e :: pre) f post (by rw [hes]; rfl) hf
      rw [ownOpen_cons, Option.mem_def.mp hn] at hm
      exact ⟨m, hm⟩
  · rintro ⟨hhead, htail⟩ pre f post hes hf
    cases pre with
    | nil =>
        obtain ⟨rfl, -⟩ := List.cons.inj hes
        exact ⟨own - 1, congrArg some (Nat.succ_pred_eq_of_pos (hhead hf)).symm⟩
    | cons e' pre =>
        obtain ⟨rfl, hrest⟩ := List.cons.inj hes
        have hafter : ∃ n, ownAfter own e = some n := by
          cases e <;> first | exact ⟨_, rfl⟩ | skip
          -- closing a scope is fine, since there is one
          obtain ⟨n, rfl⟩ : ∃ n, own = n + 1 := ⟨own - 1, (Nat.succ_pred_eq_of_pos (hhead rfl)).symm⟩
          exact ⟨n, rfl⟩
        obtain ⟨n, hn⟩ := hafter
        obtain ⟨m, hm⟩ := htail n hn pre f post hrest hf
        refine ⟨m, ?_⟩
        rw [ownOpen_cons, hn]
        exact hm

instance decidableActsInside : (own : Nat) → (es : List Event) → Decidable (ActsInside own es)
  | own, [] => isTrue (actsInside_nil own)
  | _, _ :: es =>
      have : DecidablePred fun n => ActsInside n es := fun n => decidableActsInside n es
      decidable_of_iff _ actsInside_cons_iff.symm

end Event

/-! ## §2. The frame rule of the machine -/

namespace ScopeState

/-- An event that leaves the lower part of the scopes alone happens without it just the
same. -/
theorem Step.frame {closing : List Cleanup} {xs base : List Scope} {e : Event} {t : ScopeState}
    (h : Step ⟨closing, xs ++ base⟩ e t) (he : e.actsOnScope → 0 < xs.length) :
    ∃ closing' xs', t = ⟨closing', xs' ++ base⟩ ∧ Step ⟨closing, xs⟩ e ⟨closing', xs'⟩ ∧
      Event.ownAfter xs.length e = some xs'.length := by
  generalize hs : ScopeState.mk closing (xs ++ base) = s at h
  cases h with
  | opened ss =>
      obtain ⟨rfl, rfl⟩ := ScopeState.mk.inj hs
      exact ⟨[], [] :: xs, rfl, .opened xs, rfl⟩
  | closed s ss =>
      obtain ⟨rfl, hss⟩ := ScopeState.mk.inj hs
      cases xs with
      | nil => exact absurd (he rfl) (Nat.lt_irrefl 0)
      | cons x xs =>
          obtain ⟨rfl, rfl⟩ := List.cons.inj hss
          exact ⟨x, xs, rfl, .closed x xs, rfl⟩
  | deferred k s ss =>
      obtain ⟨rfl, hss⟩ := ScopeState.mk.inj hs
      cases xs with
      | nil => exact absurd (he rfl) (Nat.lt_irrefl 0)
      | cons x xs =>
          obtain ⟨rfl, rfl⟩ := List.cons.inj hss
          exact ⟨[], (k :: x) :: xs, rfl, .deferred k x xs, rfl⟩
  | cleaned k ks ss =>
      obtain ⟨rfl, rfl⟩ := ScopeState.mk.inj hs
      exact ⟨ks, xs, rfl, .cleaned k ks xs, rfl⟩
  | other hother =>
      subst hs
      refine ⟨closing, xs, rfl, .other hother _, ?_⟩
      cases e <;> first | rfl | cases hother

/-- **The frame rule.**  Events that act on scopes opened since run without the scopes that
were open before, and leave these as they are. -/
theorem Steps.frame {closing : List Cleanup} {xs base : List Scope} {es : List Event}
    {t : ScopeState} (h : Steps ⟨closing, xs ++ base⟩ es t)
    (hes : Event.ActsInside xs.length es) :
    ∃ closing' xs', t = ⟨closing', xs' ++ base⟩ ∧ Steps ⟨closing, xs⟩ es ⟨closing', xs'⟩ ∧
      Event.ownOpen xs.length es = some xs'.length := by
  -- the scopes opened since change with each event, those below do not
  induction es generalizing closing xs with
  | nil =>
      cases h
      exact ⟨closing, xs, rfl, .nil _, rfl⟩
  | cons e es ih =>
      cases h with
      | cons h h' =>
          obtain ⟨hhead, htail⟩ := Event.actsInside_cons_iff.mp hes
          obtain ⟨closing₁, xs₁, rfl, hstep, hafter⟩ := h.frame hhead
          obtain ⟨closing', xs', rfl, hsteps, hopen⟩ := ih h' (htail _ hafter)
          refine ⟨closing', xs', rfl, .cons hstep hsteps, ?_⟩
          rw [Event.ownOpen_cons, hafter]
          exact hopen

/-- One event that closes no scope of the lower part: it stays, and what is pending in it can
only grow. -/
theorem Step.grow {closing : List Cleanup} {xs base : List Scope} {e : Event} {t : ScopeState}
    {n : Nat} (h : Step ⟨closing, xs ++ base⟩ e t) (hafter : Event.ownAfter xs.length e = some n) :
    ∃ closing' xs' base', t = ⟨closing', xs' ++ base'⟩ ∧ xs'.length = n ∧
      base'.length = base.length ∧ base.flatten.length ≤ base'.flatten.length := by
  by_cases hacts : e.actsOnScope → 0 < xs.length
  · obtain ⟨closing', xs', rfl, -, hlength⟩ := h.frame hacts
    obtain rfl : xs'.length = n := Option.some.inj (hlength.symm.trans hafter)
    exact ⟨closing', xs', base, rfl, rfl, rfl, Nat.le_refl _⟩
  · -- the event acts on the lower part, so it is a registration
    obtain ⟨he, hxs⟩ : e.actsOnScope = true ∧ xs = [] := by
      cases xs with
      | nil => exact ⟨by simpa using hacts, rfl⟩
      | cons x xs => exact absurd (fun _ => Nat.succ_pos _) hacts
    subst hxs
    cases h with
    | opened => cases he
    | closed => cases hafter
    | deferred k s ss =>
        obtain rfl : 0 = n := Option.some.inj hafter
        refine ⟨[], [], (k :: s) :: ss, rfl, rfl, rfl, ?_⟩
        simp
    | cleaned => cases he
    | other hother => exact absurd he (Event.not_actsOnScope_of_isUnscoped hother)

/-- As long as none of them is closed, the scopes that were open before stay, and what is
pending in them can only grow. -/
theorem Steps.grow {closing : List Cleanup} {xs base : List Scope} {es : List Event}
    {t : ScopeState} {n : Nat} (h : Steps ⟨closing, xs ++ base⟩ es t)
    (hopen : Event.ownOpen xs.length es = some n) :
    ∃ closing' xs' base', t = ⟨closing', xs' ++ base'⟩ ∧ xs'.length = n ∧
      base'.length = base.length ∧ base.flatten.length ≤ base'.flatten.length := by
  induction es generalizing closing xs base with
  | nil =>
      cases h
      exact ⟨closing, xs, base, rfl, Option.some.inj hopen, rfl, Nat.le_refl _⟩
  | cons e es ih =>
      cases h with
      | cons h h' =>
          rw [Event.ownOpen_cons] at hopen
          obtain ⟨m, hafter, hopen⟩ := Option.bind_eq_some_iff.mp hopen
          obtain ⟨closing₁, xs₁, base₁, rfl, rfl, hlength₁, hle₁⟩ := h.grow hafter
          obtain ⟨closing', xs', base', rfl, hn, hlength, hle⟩ := ih h' hopen
          exact ⟨closing', xs', base', rfl, hn, by omega, by omega⟩

/-- Once an event has acted on the lower part and closed none of it, what is pending in it
has grown for good. -/
theorem Steps.grow_of_acts {closing : List Cleanup} {base : List Scope} {e : Event}
    {es : List Event} {t : ScopeState} {n : Nat} (h : Steps ⟨closing, base⟩ (e :: es) t)
    (he : e.actsOnScope) (hopen : Event.ownOpen 0 (e :: es) = some n) :
    ∃ closing' xs' base', t = ⟨closing', xs' ++ base'⟩ ∧
      base'.length = base.length ∧ base.flatten.length < base'.flatten.length := by
  cases h with
  | cons hstep hsteps =>
      cases hstep with
      | opened => cases he
      | closed => cases hopen
      | deferred k s ss =>
          have hsteps : Steps ⟨[], [] ++ (k :: s) :: ss⟩ es t := hsteps
          have hopen : Event.ownOpen 0 es = some n := hopen
          obtain ⟨closing', xs', base', rfl, -, hlength, hle⟩ := hsteps.grow hopen
          refine ⟨closing', xs', base', rfl, hlength, ?_⟩
          simp only [List.flatten_cons, List.length_append, List.length_cons] at hle ⊢
          omega
      | cleaned => cases he
      | other hother => exact absurd he (Event.not_actsOnScope_of_isUnscoped hother)

end ScopeState

/-! ## §3. Keeping the caller's scopes -/

namespace Context

/-- A part that began at one context and has come to another kept the scopes of its caller. -/
structure KeptScopes (c d : Context) : Prop where
  /-- As many scopes are open, and the same cleanups are pending in each. -/
  scopes_eq : d.scopes = c.scopes
  /-- They are the same scopes: none was closed in the meantime. -/
  still_open : (Event.ownOpen 0 (c.eventsTo d)).isSome
  /-- None of their cleanups ran: what ran was registered in the meantime. -/
  cleanedUp : CleanedUp (c.eventsTo d)

variable {c d : Context} {es : List Event}

/-- Moves that act on scopes opened since keep the scopes that were open before. -/
theorem Evolves.keptScopes (h : Evolves c es d) (hdepth : d.depth ≤ c.depth)
    (hes : Event.ActsInside 0 es) : KeptScopes c d := by
  have hsteps : ScopeState.Steps ⟨[], [] ++ c.scopes⟩ es ⟨[], d.scopes⟩ := h.steps
  obtain ⟨closing, xs, hd, hown, hopen⟩ := hsteps.frame hes
  obtain ⟨rfl, hscopes⟩ := ScopeState.mk.inj hd
  -- nothing is left open beyond the scopes of before
  have hnil : xs = [] := by
    have hlength := congrArg List.length hscopes
    rw [List.length_append, length_scopes, length_scopes] at hlength
    exact List.length_eq_zero_iff.mp (by omega)
  subst hnil
  refine ⟨hscopes, ?_, ?_⟩
  · have hopen : Event.ownOpen 0 es = some 0 := hopen
    rw [h.eventsTo_eq, hopen]
    rfl
  · -- without the scopes of before the same events start and end with nothing pending
    have hdrains : Drains [] (es ++ []) := hown.drains (.done .nil)
    rw [h.eventsTo_eq, ← List.append_nil es]
    exact hdrains.cleanedUp

/-- Moves that keep the scopes that were open before act on scopes opened since. -/
theorem Evolves.actsInside (h : Evolves c es d) (hkept : KeptScopes c d) :
    Event.ActsInside 0 es := by
  intro pre e post hsplit he
  have hopen := hkept.still_open
  rw [h.eventsTo_eq, hsplit, Event.ownOpen_append] at hopen
  -- no scope of before was closed up to this event, and none after it
  obtain ⟨n, hpre, hrest⟩ : ∃ n, Event.ownOpen 0 pre = some n ∧
      (Event.ownOpen n (e :: post)).isSome := by
    cases hpre : Event.ownOpen 0 pre with
    | none =>
        rw [hpre] at hopen
        cases hopen
    | some n =>
        rw [hpre] at hopen
        exact ⟨n, rfl, hopen⟩
  cases n with
  | succ n => exact ⟨n, hpre⟩
  | zero =>
      exfalso
      have hsteps : ScopeState.Steps ⟨[], [] ++ c.scopes⟩ (pre ++ e :: post) ⟨[], d.scopes⟩ :=
        hsplit ▸ h.steps
      obtain ⟨t, hbefore, hafter⟩ := ScopeState.steps_append_iff.mp hsteps
      -- at this moment the scopes of before are all there is, so the event acts on one of them
      obtain ⟨closing, xs, base, rfl, hxs, hlength, hle⟩ := hbefore.grow hpre
      obtain rfl : xs = [] := List.length_eq_zero_iff.mp hxs
      obtain ⟨m, hm⟩ := Option.isSome_iff_exists.mp hrest
      obtain ⟨closing', xs', base', hd, hlength', hlt⟩ := hafter.grow_of_acts he hm
      -- at the end they are what they were, which leaves no room for more
      obtain ⟨-, hscopes⟩ := ScopeState.mk.inj hd
      rw [hkept.scopes_eq] at hscopes
      have hnil : xs' = [] := by
        have hlengths := congrArg List.length hscopes
        rw [List.length_append] at hlengths
        rw [List.nil_append] at hlength'
        exact List.length_eq_zero_iff.mp (by omega)
      subst hnil
      rw [hscopes, List.nil_append] at hle
      rw [List.nil_append] at hlt
      omega

end Context

/-! ## §4. Parts in a scope of their own -/

namespace Engine

variable {α : Type} {registry : Registry} {limit : Nat} {body : Program α} {c d : Context} {a : α}

/-- **When a part in a scope of its own keeps the scopes of its caller.**  Whatever it does,
no more scopes are open afterwards than before.  The caller's scopes are kept, none of them
closed, none with more or fewer cleanups pending and none of these run, if and only if the
part had a scope opened since at each moment at which it closed a scope or registered a
cleanup. -/
theorem inScope_keepsScopes_iff
    (h : Run.inScope (perform (answer registry (enter registry limit)) limit body) c =
      some (a, d)) :
    d.depth ≤ c.depth ∧ (c.KeptScopes d ↔ Event.ActsInside 0 (c.eventsTo d)) := by
  have hdepth : d.depth ≤ c.depth := Run.Shallow.inScope _ c a d h
  obtain ⟨es, hes⟩ := Run.Evolving.inScope (perform_evolves registry limit body) c a d h
  refine ⟨hdepth, ?_, ?_⟩
  · intro hkept
    rw [hes.eventsTo_eq]
    exact hes.actsInside hkept
  · intro hacts
    rw [hes.eventsTo_eq] at hacts
    exact hes.keptScopes hdepth hacts

/-- A context with one scope open above the root, and a cleanup pending in it. -/
def oneScopeOpen : Context :=
  (Context.start .fatal false none).openScope.defer ⟨⟨.str "a", none⟩, false⟩

/-- A part that closes one scope more than its own. -/
def closeTwo : Program Unit :=
  .ask .closeScope fun _ => .ask .closeScope fun _ => .done ()

/-- The same part, with two scopes opened before. -/
def openTwoCloseTwo : Program Unit :=
  .ask .openScope fun _ => .ask .openScope fun _ => closeTwo

/-- The condition holds of the second part, and the caller's scopes are kept. -/
theorem openTwoCloseTwo_keepsScopes :
    ∃ d, Run.inScope (perform (answer .empty (enter .empty 0)) 0 openTwoCloseTwo) oneScopeOpen =
        some ((), d) ∧ oneScopeOpen.KeptScopes d := by
  have hrun : Run.inScope (perform (answer .empty (enter .empty 0)) 0 openTwoCloseTwo)
      oneScopeOpen = some ((), oneScopeOpen.openScope.openScope.openScope.closeScope.closeScope
        |>.closeScope) := rfl
  refine ⟨_, hrun, (inScope_keepsScopes_iff hrun).2.mpr ?_⟩
  decide

/-- The first part closes the scope of its caller and runs the cleanup that is pending in it,
while the caller is still running. -/
theorem closeTwo_closes_caller_scope :
    ∃ d, Run.inScope (perform (answer .empty (enter .empty 0)) 0 closeTwo) oneScopeOpen =
        some ((), d) ∧ oneScopeOpen.depth = 2 ∧ d.depth = 1 ∧
      .cleaned ⟨⟨.str "a", none⟩, false⟩ ∈ oneScopeOpen.eventsTo d ∧ ¬ oneScopeOpen.KeptScopes d := by
  refine ⟨_, rfl, rfl, rfl, ?_, ?_⟩
  · decide
  · intro h
    have := h.still_open
    revert this
    decide

end Engine

end StepFlow
