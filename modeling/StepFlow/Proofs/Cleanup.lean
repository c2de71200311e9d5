import StepFlow.Proofs.ScopeState
import StepFlow.Session

/-
  StepFlow.Proofs.Cleanup
  ───────────────────────
  Every cleanup runs once, the last one registered first.

  `RunsAt es ran` speaks of positions in a list of events: a cleanup that is
  registered at position `i` runs at position `ran i`, no other registration has
  that position, nothing else runs, and what is registered in between runs in
  between.  `executeWithin_cleansUp`: the journal of every run that ends is like
  that, whatever its functions open, close and register.

  The proof goes over well-bracketed lists of events.  `Drains ks es` says that
  `es` runs the pending cleanups `ks` in order, and all else in it is bracketed;
  each step of the scope machine undoes one event of it.  What is pending when
  the steps have ended is the root scope alone, and its cleanups run last.
-/

namespace StepFlow

/-! ## §1. When cleanups run -/

/-- Whether an event registers or runs a cleanup. -/
def Event.isCleanup : Event → Bool
  | .deferred _ => true
  | .cleaned _ => true
  | _ => false

theorem Event.not_isCleanup_of_isUnscoped {e : Event} (he : e.isUnscoped) :
    e.isCleanup = false := by
  cases e <;> first | rfl | cases he

/-- The cleanup registered at position `i` runs at position `ran i`. -/
structure RunsAt (es : List Event) (ran : Nat → Nat) : Prop where
  /-- What is registered runs later. -/
  runs : ∀ {i k}, es[i]? = some (.deferred k) → i < ran i ∧ es[ran i]? = some (.cleaned k)
  /-- What runs was registered. -/
  registered : ∀ {j k}, es[j]? = some (.cleaned k) →
    ∃ i, es[i]? = some (.deferred k) ∧ ran i = j
  /-- No two registrations run at once. -/
  once : ∀ {i j k l}, es[i]? = some (.deferred k) → es[j]? = some (.deferred l) →
    ran i = ran j → i = j
  /-- When a cleanup runs, nothing that was registered after it is pending. -/
  lifo : ∀ {i j k l}, es[i]? = some (.deferred k) → es[j]? = some (.deferred l) →
    i < j → j < ran i → ran j < ran i

/-- Every cleanup that is registered runs exactly once, the last one registered first. -/
def CleanedUp (es : List Event) : Prop :=
  ∃ ran, RunsAt es ran

namespace RunsAt

variable {es fs : List Event} {r s : Nat → Nat}

theorem lt_length (h : RunsAt es r) {i : Nat} {k : Cleanup}
    (hi : es[i]? = some (.deferred k)) : r i < es.length :=
  (List.getElem?_eq_some_iff.mp (h.runs hi).2).1

/-- Events without registrations and cleanups. -/
theorem of_absent (hes : ∀ e ∈ es, e.isCleanup = false) : RunsAt es id := by
  have hnone : ∀ {i : Nat} {e : Event}, es[i]? = some e → e.isCleanup ≠ true := by
    intro i e hi he
    rw [hes e (List.mem_of_getElem? hi)] at he
    cases he
  refine ⟨fun h => ?_, fun h => ?_, fun h => ?_, fun h => ?_⟩
  all_goals exact absurd rfl (hnone h)

/-- Two lists one after the other. -/
theorem append (h : RunsAt es r) (h' : RunsAt fs s) :
    RunsAt (es ++ fs)
      fun i => if i < es.length then r i else s (i - es.length) + es.length := by
  -- a position lies in the first list, and what it refers to does, or in the second
  have hfirst : ∀ {i}, i < es.length → (es ++ fs)[i]? = es[i]? :=
    fun hi => List.getElem?_append_left hi
  have hsecond : ∀ {i}, es.length ≤ i → (es ++ fs)[i]? = fs[i - es.length]? :=
    fun hi => List.getElem?_append_right hi
  refine ⟨?_, ?_, ?_, ?_⟩
  · intro i k hi
    by_cases hlt : i < es.length
    · rw [hfirst hlt] at hi
      obtain ⟨hlater, hran⟩ := h.runs hi
      rw [if_pos hlt, hfirst (h.lt_length hi)]
      exact ⟨hlater, hran⟩
    · rw [hsecond (by omega)] at hi
      obtain ⟨hlater, hran⟩ := h'.runs hi
      rw [if_neg hlt, hsecond (by omega), Nat.add_sub_cancel]
      exact ⟨by omega, hran⟩
  · intro j k hj
    by_cases hlt : j < es.length
    · rw [hfirst hlt] at hj
      obtain ⟨i, hi, rfl⟩ := h.registered hj
      have hil : i < es.length := (List.getElem?_eq_some_iff.mp hi).1
      exact ⟨i, by rw [hfirst hil]; exact hi, if_pos hil⟩
    · rw [hsecond (by omega)] at hj
      obtain ⟨i, hi, hran⟩ := h'.registered hj
      refine ⟨i + es.length, ?_, ?_⟩
      · rw [hsecond (by omega), Nat.add_sub_cancel]
        exact hi
      · rw [if_neg (by omega), Nat.add_sub_cancel]
        omega
  · intro i j k l hi hj hran
    by_cases hil : i < es.length <;> by_cases hjl : j < es.length
    · rw [hfirst hil] at hi
      rw [hfirst hjl] at hj
      rw [if_pos hil, if_pos hjl] at hran
      exact h.once hi hj hran
    · rw [hfirst hil] at hi
      rw [if_pos hil, if_neg hjl] at hran
      have := h.lt_length hi
      omega
    · rw [hfirst hjl] at hj
      rw [if_neg hil, if_pos hjl] at hran
      have := h.lt_length hj
      omega
    · rw [hsecond (by omega)] at hi hj
      rw [if_neg hil, if_neg hjl] at hran
      have := h'.once hi hj (by omega)
      omega
  · intro i j k l hi hj hij hjran
    by_cases hil : i < es.length <;> by_cases hjl : j < es.length
    · rw [hfirst hil] at hi
      rw [hfirst hjl] at hj
      rw [if_pos hil] at hjran ⊢
      rw [if_pos hjl]
      exact h.lifo hi hj hij hjran
    · rw [hfirst hil] at hi
      rw [if_pos hil] at hjran
      have := h.lt_length hi
      omega
    · omega
    · rw [hsecond (by omega)] at hi hj
      rw [if_neg hil] at hjran ⊢
      rw [if_neg hjl]
      have := h'.lifo hi hj (by omega) (by omega)
      omega

/-- A list between a registration and the run of its cleanup. -/
theorem bracket (h : RunsAt es r) (k : Cleanup) :
    RunsAt (.deferred k :: (es ++ [.cleaned k]))
      fun i => if i = 0 then es.length + 1 else r (i - 1) + 1 := by
  have hinside : ∀ {i}, i < es.length →
      (Event.deferred k :: (es ++ [Event.cleaned k]))[i + 1]? = es[i]? :=
    fun hi => List.getElem?_append_left hi
  have hlast : (Event.deferred k :: (es ++ [Event.cleaned k]))[es.length + 1]? =
      some (.cleaned k) := by
    simp
  -- an event is the first one, or lies inside, or is the last one
  have hcases : ∀ {i e}, (Event.deferred k :: (es ++ [Event.cleaned k]))[i]? = some e →
      (i = 0 ∧ e = .deferred k) ∨ (∃ i', i = i' + 1 ∧ es[i']? = some e) ∨
        (i = es.length + 1 ∧ e = .cleaned k) := by
    intro i e hi
    cases i with
    | zero => exact .inl ⟨rfl, (Option.some.inj hi).symm⟩
    | succ i =>
        right
        by_cases hil : i < es.length
        · rw [hinside hil] at hi
          exact .inl ⟨i, rfl, hi⟩
        · rw [List.getElem?_cons_succ, List.getElem?_append_right (by omega)] at hi
          have hbound : i - es.length < 1 := (List.getElem?_eq_some_iff.mp hi).1
          have he : e ∈ [Event.cleaned k] := List.mem_of_getElem? hi
          exact .inr ⟨by omega, List.mem_singleton.mp he⟩
  have hdeferred : ∀ {i l}, (Event.deferred k :: (es ++ [Event.cleaned k]))[i]? =
      some (.deferred l) → (i = 0 ∧ l = k) ∨ ∃ i', i = i' + 1 ∧ es[i']? = some (.deferred l) := by
    intro i l hi
    rcases hcases hi with ⟨hi0, hl⟩ | hin | ⟨-, hl⟩
    · cases hl
      exact .inl ⟨hi0, rfl⟩
    · exact .inr hin
    · cases hl
  refine ⟨?_, ?_, ?_, ?_⟩
  · intro i l hi
    rcases hdeferred hi with ⟨rfl, rfl⟩ | ⟨i', rfl, hi'⟩
    · exact ⟨Nat.succ_pos _, hlast⟩
    · obtain ⟨hlater, hran⟩ := h.runs hi'
      have hlt := h.lt_length hi'
      show i' + 1 < r i' + 1 ∧ (Event.deferred k :: (es ++ [Event.cleaned k]))[r i' + 1]? = _
      rw [hinside hlt]
      exact ⟨by omega, hran⟩
  · intro j l hj
    rcases hcases hj with ⟨-, hl⟩ | ⟨j', rfl, hj'⟩ | ⟨rfl, hl⟩
    · cases hl
    · obtain ⟨i, hi, rfl⟩ := h.registered hj'
      have hil : i < es.length := (List.getElem?_eq_some_iff.mp hi).1
      exact ⟨i + 1, by rw [hinside hil]; exact hi, rfl⟩
    · cases hl
      exact ⟨0, rfl, rfl⟩
  · intro i j l m hi hj hran
    rcases hdeferred hi with ⟨rfl, rfl⟩ | ⟨i', rfl, hi'⟩ <;>
      rcases hdeferred hj with ⟨rfl, rfl⟩ | ⟨j', rfl, hj'⟩
    · rfl
    · have hran : es.length + 1 = r j' + 1 := hran
      have := h.lt_length hj'
      omega
    · have hran : r i' + 1 = es.length + 1 := hran
      have := h.lt_length hi'
      omega
    · have hran : r i' + 1 = r j' + 1 := hran
      have := h.once hi' hj' (by omega)
      omega
  · intro i j l m hi hj hij hjran
    rcases hdeferred hi with ⟨rfl, rfl⟩ | ⟨i', rfl, hi'⟩ <;>
      rcases hdeferred hj with ⟨rfl, rfl⟩ | ⟨j', rfl, hj'⟩
    · omega
    · show r j' + 1 < es.length + 1
      have := h.lt_length hj'
      omega
    · omega
    · have hjran : j' + 1 < r i' + 1 := hjran
      show r j' + 1 < r i' + 1
      have := h.lifo hi' hj' (by omega) (by omega)
      omega

end RunsAt

/-! ## §2. Well-bracketed events -/

/-- Events in which registrations and runs of cleanups are paired like brackets. -/
inductive Bracketed : List Event → Prop where
  /-- No events. -/
  | nil : Bracketed []
  /-- An event that is neither. -/
  | other {e : Event} (he : e.isCleanup = false) : Bracketed [e]
  /-- A registration, and the run of its cleanup. -/
  | bracket (k : Cleanup) {es : List Event} (h : Bracketed es) :
      Bracketed (.deferred k :: (es ++ [.cleaned k]))
  /-- Two lists one after the other. -/
  | append {es fs : List Event} (h : Bracketed es) (h' : Bracketed fs) : Bracketed (es ++ fs)

theorem Bracketed.cleanedUp {es : List Event} (h : Bracketed es) : CleanedUp es := by
  induction h with
  | nil => exact ⟨id, .of_absent (by simp)⟩
  | other he => exact ⟨id, .of_absent (by simpa using he)⟩
  | bracket k _ ih =>
      -- the inner list moves up by one, and its registrations still run inside of it
      obtain ⟨r, hr⟩ := ih
      exact ⟨_, hr.bracket k⟩
  | append _ _ ih ih' =>
      obtain ⟨r, hr⟩ := ih
      obtain ⟨s, hs⟩ := ih'
      exact ⟨_, hr.append hs⟩

/-- Events that run the pending cleanups in order; all else in them is bracketed. -/
inductive Drains : List Cleanup → List Event → Prop where
  /-- Nothing is pending. -/
  | done {es : List Event} (h : Bracketed es) : Drains [] es
  /-- The next pending cleanup runs. -/
  | run (k : Cleanup) {ks : List Cleanup} {es fs : List Event} (h : Bracketed es)
      (h' : Drains ks fs) : Drains (k :: ks) (es ++ .cleaned k :: fs)

namespace Drains

variable {ks : List Cleanup} {es fs : List Event}

theorem prepend (h : Bracketed es) (h' : Drains ks fs) : Drains ks (es ++ fs) := by
  cases h' with
  | done h' => exact .done (h.append h')
  | run k h₁ h₂ =>
      rw [← List.append_assoc]
      exact .run k (h.append h₁) h₂

/-- A registration before all else makes one more cleanup pending after it. -/
theorem deferred {k : Cleanup} (h : Drains (k :: ks) es) : Drains ks (.deferred k :: es) := by
  cases h with
  | run _ h₁ h₂ =>
      -- what comes before the run of `k` is bracketed, so `k` closes a bracket around it
      have hbracket := Drains.prepend (h₁.bracket k) h₂
      simpa using hbracket

end Drains

namespace ScopeState

/-- What is pending, in the order in which it will run: first the rest of the scope that is
being closed, then the open scopes. -/
def pending (s : ScopeState) : List Cleanup :=
  s.closing ++ s.scopes.flatten

variable {s t : ScopeState}

/-- One event more before events that drain what is pending after it. -/
theorem Step.drains {e : Event} (h : Step s e t) {rest : List Event}
    (hrest : Drains t.pending rest) : Drains s.pending (e :: rest) := by
  cases h with
  | opened ss => exact hrest.prepend (.other rfl)
  | closed s ss => exact hrest.prepend (.other rfl)
  | deferred k s ss => exact hrest.deferred
  | cleaned k ks ss => exact .run k .nil hrest
  | other he s => exact hrest.prepend (.other (Event.not_isCleanup_of_isUnscoped he))

theorem Steps.drains {es : List Event} (h : Steps s es t) {rest : List Event}
    (hrest : Drains t.pending rest) : Drains s.pending (es ++ rest) := by
  induction h with
  | nil s => exact hrest
  | cons h _ ih => exact h.drains (ih hrest)

end ScopeState

/-- Cleanups that run one after the other, with none pending after them. -/
theorem Drains.of_cleanups (cleanups : List Cleanup) :
    Drains cleanups (Event.ofCleanups cleanups) := by
  have hdrains := (ScopeState.steps_ofCleanups cleanups []).drains (.done .nil)
  simpa [ScopeState.pending] using hdrains

/-- Nothing is pending in the end if it drains. -/
theorem Drains.cleanedUp {es : List Event} (h : Drains [] es) : CleanedUp es := by
  cases h with
  | done h => exact h.cleanedUp

/-! ## §3. Runs from start to end -/

namespace Session

theorem not_isCleanup_endEvent (outcome : Except Fault State) :
    (endEvent outcome).isCleanup = false := by
  cases outcome with
  | ok state => rfl
  | error e =>
      rw [endEvent]
      split <;> rfl

/-- The end of a run runs what is pending with the root, if nothing else is open. -/
theorem journal_close {c : Context} (hc : c.inner = []) :
    c.close.journal = (Event.ofCleanups c.root).reverse ++ c.journal := by
  rw [Context.close, hc]
  show (Context.runCleanups _ c.root).journal = _
  rw [Context.runCleanups_eq]

/-- The context in which the steps of a run start. -/
def stepsContext (settings : Settings) (cancelled : Bool) (steps : List Step) : Context :=
  (context settings cancelled).record (.runStarted steps.length)

/-- A run starts, its steps make moves that leave the root scope alone open, it ends, and the
cleanups of the root run. -/
theorem executeWithin_eq_some {limit : Nat} {registry : Registry} {settings : Settings}
    {cancelled : Bool} {steps : List Step} {initial : State} {report : Report}
    (h : executeWithin limit registry settings cancelled steps initial = some report) :
    ∃ es d, (stepsContext settings cancelled steps).Evolves es d ∧ d.inner = [] ∧
      report.journal =
        .runStarted steps.length :: (es ++ endEvent report.outcome :: Event.ofCleanups d.root) := by
  unfold executeWithin at h
  cases hrun : Engine.runWithin registry limit steps initial []
      (stepsContext settings cancelled steps) with
  | none =>
      rw [stepsContext] at hrun
      simp only [hrun] at h
      cases h
  | some p =>
      obtain ⟨result, d⟩ := p
      obtain ⟨es, hes⟩ := Engine.runWithin_evolves registry limit steps initial [] _ _ _ hrun
      have hdepth : d.depth ≤ 1 :=
        Engine.runWithin_shallow registry limit steps initial [] _ _ _ hrun
      -- the steps began with the root alone, and leave no more than that
      have hinner : d.inner = [] := by
        refine List.length_eq_zero_iff.mp ?_
        rw [Context.depth] at hdepth
        omega
      rw [stepsContext] at hrun
      simp only [hrun] at h
      cases h
      refine ⟨es, d, hes, hinner, ?_⟩
      have hclose : (d.record (endEvent (outcomeOf result))).inner = [] := hinner
      show List.reverse (Context.close _).journal = _
      rw [journal_close hclose]
      show List.reverse (List.reverse (Event.ofCleanups d.root) ++ endEvent _ :: d.journal) = _
      rw [hes.journal_eq]
      simp [stepsContext, context, Context.record, Context.start]

/-- **Every cleanup of a run runs exactly once, the last one registered first**, whatever
the functions of the run open, close and register, and however the run ends. -/
theorem executeWithin_cleansUp {limit : Nat} {registry : Registry} {settings : Settings}
    {cancelled : Bool} {steps : List Step} {initial : State} {report : Report}
    (h : executeWithin limit registry settings cancelled steps initial = some report) :
    CleanedUp report.journal := by
  obtain ⟨es, d, hes, hinner, hjournal⟩ := executeWithin_eq_some h
  rw [hjournal]
  -- backwards from the end: the cleanups of the root drain what is pending with it
  have hroot : Drains d.root (endEvent report.outcome :: Event.ofCleanups d.root) :=
    .prepend (.other (not_isCleanup_endEvent _)) (.of_cleanups d.root)
  have hpending : (ScopeState.mk [] d.scopes).pending = d.root := by
    simp [ScopeState.pending, Context.scopes, hinner]
  have hsteps : Drains [] (es ++ endEvent report.outcome :: Event.ofCleanups d.root) :=
    hes.steps.drains (hpending ▸ hroot)
  exact (Drains.prepend (.other rfl) hsteps).cleanedUp

/-- A function that closes the scope of its step, opens another one and fails, with a cleanup
in either scope; the second cleanup fails too. -/
def untidy : Function := fun _ _ => do
  Action.ask (.defer ⟨.str "first", none⟩)
  Action.ask .closeScope
  Action.ask .openScope
  Action.ask (.defer ⟨.str "second", some "broken"⟩)
  Action.raise (.fault (.other "gone"))

/-- A run of one step, which calls `untidy`. -/
def untidyRun : Option Report :=
  executeWithin 1 (Registry.empty.register "untidy" untidy) .default false
    [⟨"untidy", .empty, .empty, [], none, none⟩] []

/-- The run ends, and two cleanups were registered and ran. -/
theorem untidyRun_cleansUp :
    ∃ report, untidyRun = some report ∧ (report.journal.filter Event.isCleanup).length = 4 ∧
      CleanedUp report.journal := by
  have hrun : ∃ report, untidyRun = some report ∧
      (report.journal.filter Event.isCleanup).length = 4 := ⟨_, rfl, rfl⟩
  obtain ⟨report, hreport, hlength⟩ := hrun
  exact ⟨report, hreport, hlength, executeWithin_cleansUp hreport⟩

end Session

end StepFlow
