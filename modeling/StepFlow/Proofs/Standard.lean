import StepFlow.Builtin
import StepFlow.Proofs.Ensuring

/-
  StepFlow.Proofs.Standard
  ────────────────────────
  What the standard functions ensure.

  The standard functions act on a run by running slots of their own step and by
  nothing else that matters: they note, log, and look at the flag.  How they end
  follows from how their slots end.  A fault of a slot, or one of three kinds that
  they raise themselves, may come out of them.  A loop signal comes out of them
  only if it came out of a slot whose signals they do not take (`takesSignals`), or
  if raising it is what they are for.  All of them end if their slots do, but for a
  conditional loop without a limit.
-/

namespace StepFlow

/-! ## §1. Terms -/

/-- What has to be reckoned with in a run of the standard functions. -/
structure Terms where
  /-- The faults that may come up. -/
  faults : Fault → Prop
  /-- Whether every part has to end. -/
  total : Prop
  /-- Some functions raise flow errors, -/
  flow : ∀ e, faults (.flow e)
  /-- some refuse their input, -/
  invalidInput : ∀ text, faults (.invalidInput text)
  /-- and some report a value of the wrong shape. -/
  json : ∀ text, faults (.json text)

namespace Terms

variable {α : Type}

/-- An outcome that the terms permit: a result that satisfies `post`, a fault that may come
up, or a signal where signals may come out. -/
def Permits (t : Terms) (signals : Bool) (post : α → Prop) : Outcome α → Prop
  | .ok a => post a
  | .error (.signal _) => signals = true
  | .error (.fault e) => t.faults e

/-- An interrupt is permitted or not, whatever a result would have to satisfy. -/
theorem Permits.error {β : Type} {t : Terms} {signals : Bool} {post : α → Prop}
    {other : β → Prop} {i : Interrupt} (h : t.Permits signals post (.error i)) :
    t.Permits signals other (.error i) := by
  cases i with
  | signal s => exact h
  | fault e => exact h

/-- What the standard functions ask for: their slots, the flag, the level, and notes.  The
signals that may come out of a slot are given by its name. -/
def service (t : Terms) (slots : String → Bool) : Service where
  allows
    | .runSlot .. => True
    | .isCancelled => True
    | .logLevel => True
    | .note _ => True
    | _ => False
  promises
    | .runSlot name _ _, x => t.Permits (slots name) (fun _ => True) x
    | .isCancelled, x => x = true → t.faults .cancelled
    | _, _ => True

end Terms

/-! ## §2. Actions -/

namespace Action

variable {α β σ : Type} {t : Terms} {limit : Nat} {slots : String → Bool} {signals : Bool}

/-- An action that keeps to the terms and whose results satisfy `post`. -/
def Ensures (t : Terms) (limit : Nat) (slots : String → Bool) (signals : Bool) (m : Action α)
    (post : α → Prop) : Prop :=
  m.run.Ensures (t.service slots) t.total limit (t.Permits signals post)

theorem Ensures.pure {post : α → Prop} {a : α} (ha : post a) :
    Ensures t limit slots signals (pure a) post := ha

theorem Ensures.bind {m : Action α} {f : α → Action β} {mid : α → Prop} {post : β → Prop}
    (hm : Ensures t limit slots signals m mid)
    (hf : ∀ a, mid a → Ensures t limit slots signals (f a) post) :
    Ensures t limit slots signals (m >>= f) post := by
  refine Program.Ensures.bind hm fun r hr => ?_
  cases r with
  | ok a => exact hf a hr
  | error i => exact hr.error

/-- A first part whose result does not matter. -/
theorem Ensures.seq {m : Action α} {f : α → Action β} {mid : α → Prop} {post : β → Prop}
    (hm : Ensures t limit slots signals m mid)
    (hf : ∀ a, Ensures t limit slots signals (f a) post) :
    Ensures t limit slots signals (m >>= f) post :=
  hm.bind fun a _ => hf a

theorem Ensures.raiseFault {e : Fault} (he : t.faults e) {post : α → Prop} :
    Ensures t limit slots signals (raise (.fault e)) post := he

theorem Ensures.raiseSignal (s : Signal) (hsignals : signals = true) {post : α → Prop} :
    Ensures t limit slots signals (raise (.signal s)) post := hsignals

theorem Ensures.ofOutcome {post : α → Prop} {x : Outcome α} (hx : t.Permits signals post x) :
    Ensures t limit slots signals (ofOutcome x) post := by
  cases x with
  | ok a => exact hx
  | error i => exact hx

theorem Ensures.note (n : Note) :
    Ensures t limit slots signals (ask (.note n)) fun _ => True :=
  ⟨trivial, fun _ _ => trivial⟩

theorem Ensures.trySlot (name : String) (state vars : Option State) :
    Ensures t limit slots signals (trySlot name state vars)
      (t.Permits (slots name) fun _ => True) :=
  ⟨trivial, fun _ hx => hx⟩

/-- A slot whose signals are passed on. -/
theorem Ensures.runSlot {name : String} (hname : slots name = true → signals = true)
    (state vars : Option State) :
    Ensures t limit slots signals (runSlot name state vars) fun _ => True := by
  refine (Ensures.trySlot name state vars).bind fun x hx => .ofOutcome ?_
  match x, hx with
  | .ok _, _ => trivial
  | .error (.signal _), hx => exact hname hx
  | .error (.fault _), hx => exact hx

theorem Ensures.ensureActive :
    Ensures t limit slots signals ensureActive fun _ => True := by
  have hask : Ensures t limit slots signals (ask .isCancelled)
      fun x => x = true → t.faults .cancelled :=
    ⟨trivial, fun _ hx => hx⟩
  refine hask.bind fun cancelled hcancelled => ?_
  split
  · next h => exact .raiseFault (hcancelled h)
  · exact .pure trivial

theorem Ensures.rounds {round : σ → Action (σ ⊕ β)} {first : σ} {inv : Nat → σ → Prop}
    {post : β → Prop} (hfirst : inv limit first) (hzero : t.total → ∀ s, ¬ inv 0 s)
    (hround : ∀ n s, inv (n + 1) s →
      Ensures t limit slots signals (round s) (Sum.elim (inv n) post)) :
    Ensures t limit slots signals (rounds round first) post := by
  refine ⟨inv, t.Permits signals post, hfirst, hzero, fun n s hs => ?_, fun _ hb => hb⟩
  refine Program.Ensures.bind (hround n s hs) fun r hr => ?_
  -- an interrupt of a round ends the loop and is its outcome
  cases r with
  | error i => exact hr.error
  | ok next =>
      cases next with
      | inl s => exact hr
      | inr b => exact hr

end Action

/-! ## §3. The flow functions -/

namespace Flow

open StepFlow.Action

variable {t : Terms} {limit : Nat} {slots : String → Bool} {signals : Bool}
  (input : State) (site : CallSite)

theorem branch_ensures (hslots : ∀ name, slots name = true → signals = true) :
    Ensures t limit slots signals (branch input site) fun _ => True :=
  (Ensures.note _).seq fun _ => (Ensures.runSlot (hslots _) _ _).seq fun _ => .pure trivial

/-- Whatever signals the body raises, the loop takes them. -/
theorem eachItem_ensures : ∀ (index : Nat) (items acc : List Value),
    Ensures t limit slots signals (eachItem site index items acc) fun _ => True := by
  intro index items
  induction items generalizing index with
  | nil => intro acc; exact .pure trivial
  | cons item rest ih =>
      intro acc
      refine Ensures.ensureActive.seq fun _ => (Ensures.trySlot _ _ _).bind fun r hr => ?_
      match r, hr with
      | .ok state, _ => exact ih _ _
      | .error (.signal .next), _ => exact ih _ _
      | .error (.signal .leave), _ => exact .pure trivial
      | .error (.fault e), hr => exact .raiseFault hr

theorem foreach_ensures (helse : slots "else" = true → signals = true) :
    Ensures t limit slots signals (foreach input site) fun _ => True := by
  have hnone : Ensures t limit slots signals (noItems site) fun _ => True := by
    refine (Ensures.runSlot helse _ _).seq fun state => ?_
    split
    · exact .pure trivial
    · exact .pure trivial
  unfold foreach
  dsimp only
  split
  · exact hnone.seq fun _ => .pure trivial
  · refine (Ensures.note _).seq fun _ => (eachItem_ensures site _ _ _).seq fun _ => ?_
    exact .pure trivial

theorem eachTask_ensures (htasks : slots "tasks" = true → signals = true) :
    ∀ (index : Nat) (tasks acc : List Value),
      Ensures t limit slots signals (eachTask site index tasks acc) fun _ => True := by
  intro index tasks
  induction tasks generalizing index with
  | nil => intro acc; exact .pure trivial
  | cons task rest ih =>
      intro acc
      refine Ensures.ensureActive.seq fun _ => (Ensures.trySlot _ _ _).bind fun r hr => ?_
      match r, hr with
      | .ok state, _ => exact ih _ _
      | .error (.fault e), _ => exact .raiseFault (t.flow _)
      | .error (.signal s), hr => exact .raiseSignal s (htasks hr)

theorem parallel_ensures (hslots : ∀ name, slots name = true → signals = true) :
    Ensures t limit slots signals (parallel input site) fun _ => True := by
  unfold parallel
  split
  · exact (eachTask_ensures site (hslots _) _ _ _).seq fun _ => .pure trivial
  · exact .pure trivial

/-- A phase that settles with a signal only if signals may come out. -/
def SettledWithin (signals : Bool) (settled : Settled) : Prop :=
  ∀ s, settled = .signalled s → signals = true

theorem runPhase_ensures (hslots : ∀ name, slots name = true → signals = true)
    (slot phase : String) (error : Option FlowError) :
    Ensures t limit slots signals (runPhase slot phase error) (SettledWithin signals) := by
  refine (Ensures.trySlot _ _ _).bind fun r hr => .pure ?_
  intro s hs
  match r, hr with
  | .ok state, _ => cases hs
  | .error (.signal _), hr => exact hslots _ hr
  | .error (.fault e), _ => cases hs

theorem handle_ensures (hslots : ∀ name, slots name = true → signals = true)
    {settled : Settled} (hsettled : SettledWithin signals settled) :
    Ensures t limit slots signals (handle site settled) (SettledWithin signals) := by
  cases settled with
  | done state => exact .pure hsettled
  | signalled s => exact .pure hsettled
  | failed e =>
      show Ensures _ _ _ _ (if site.hasSlot "catch" then _ else _) _
      split
      · exact (Ensures.note _).seq fun _ => runPhase_ensures hslots _ _ _
      · exact .pure hsettled

/-- A failure that is raised again has its structured form. -/
theorem protect_ensures (hslots : ∀ name, slots name = true → signals = true) :
    Ensures t limit slots signals (protect input site) fun _ => True := by
  refine (runPhase_ensures hslots _ _ _).bind fun tried htried => ?_
  refine (handle_ensures site hslots htried).bind fun settled hsettled => ?_
  have hconclude : ∀ last, Ensures t limit slots signals (ofOutcome (settled.conclude last))
      fun _ => True := by
    intro last
    refine .ofOutcome ?_
    cases settled with
    | done state => trivial
    | signalled s => exact hsettled s rfl
    | failed e => exact t.flow e
  dsimp only
  split
  · exact (Ensures.runSlot (hslots _) _ _).seq hconclude
  · exact hconclude []

/-! ## §4. The conditional loop -/

theorem loopState_permitted (v : Option Value) :
    t.Permits signals (fun _ => True) (loopState v) := by
  unfold loopState
  split
  · trivial
  · trivial
  · trivial
  · exact t.flow _

/-- A limit that is there, or a flow error; what is known of a limit holds of this one. -/
theorem roundLimit_permitted {v : Option Value} {post : Option Nat → Prop}
    (hpost : ∀ limit, roundLimit v = .ok limit → post limit) :
    t.Permits signals post (roundLimit v) := by
  have herror : ∀ i, roundLimit v = .error i → ∃ e, i = .fault (.flow e) := by
    intro i h
    unfold roundLimit at h
    dsimp only at h
    repeat' split at h
    all_goals cases h
    · exact ⟨_, rfl⟩
    · exact ⟨_, rfl⟩
  cases h : roundLimit v with
  | ok limit => exact hpost limit h
  | error i =>
      obtain ⟨e, rfl⟩ := herror i h
      exact t.flow e

theorem verdict_permitted (output : State) :
    t.Permits signals (fun _ => True) (verdict output) := by
  unfold verdict
  dsimp only
  split
  · trivial
  · split
    · trivial
    · exact t.flow _

/-- Where a loop that has to end stands with so many rounds left: it has a limit, which its
bodies have not passed and which the rounds left are enough for. -/
def WithinLimit (t : Terms) (max : Option Nat) (left : Nat) (p : LoopPoint) : Prop :=
  t.total → ∃ m, max = some m ∧ p.iterations ≤ m ∧ m < p.iterations + left

theorem WithinLimit.next {max : Option Nat} {left : Nat} {p : LoopPoint}
    (h : WithinLimit t max (left + 1) p) (hmax : limitReached max p.iterations = false)
    (state : State) : WithinLimit t max left ⟨state, p.iterations + 1⟩ := by
  intro htotal
  obtain ⟨m, rfl, hle, hlt⟩ := h htotal
  have hbelow : p.iterations < m := by simpa [limitReached] using hmax
  exact ⟨m, rfl, hbelow, by show m < p.iterations + 1 + left; omega⟩

/-- One round: the condition's signals are passed on, the body's are taken. -/
theorem whileRound_ensures (hcondition : slots "condition" = true → signals = true)
    {max : Option Nat} {left : Nat} {p : LoopPoint} (hp : WithinLimit t max (left + 1) p) :
    Ensures t limit slots signals (whileRound max p)
      (Sum.elim (WithinLimit t max left) fun _ => True) := by
  refine Ensures.ensureActive.seq fun _ => ?_
  split
  · exact .raiseFault (t.flow _)
  · next hmax =>
      have hnext := hp.next (Bool.eq_false_iff.mpr hmax)
      refine (Ensures.runSlot hcondition _ _).seq fun output => ?_
      refine Ensures.ensureActive.seq fun _ => ?_
      refine (Ensures.ofOutcome (verdict_permitted output)).seq fun ⟨proceed, replacement⟩ => ?_
      dsimp only
      split
      · refine (Ensures.trySlot _ _ _).bind fun r hr => ?_
        match r, hr with
        | .ok next, _ => exact .pure (hnext next)
        | .error (.signal .next), _ => exact .pure (hnext _)
        | .error (.signal .leave), _ => exact .pure trivial
        | .error (.fault e), hr => exact .raiseFault hr
      · exact .pure trivial

/-- A loop that has to end needs a limit for which the rounds are enough. -/
theorem whileLoop_ensures (hcondition : slots "condition" = true → signals = true)
    (helse : slots "else" = true → signals = true)
    (hlimit : t.total → ∀ max, roundLimit (Dict.get? input "maxIterations") = .ok max →
      ∃ m, max = some m ∧ m < limit) :
    Ensures t limit slots signals (whileLoop input site) fun _ => True := by
  have hafter : ∀ p, Ensures t limit slots signals (afterLoop site p) fun _ => True := by
    intro p
    unfold afterLoop
    split
    · exact .runSlot helse _ _
    · exact .pure trivial
  refine (Ensures.ofOutcome (loopState_permitted _)).seq fun state => ?_
  refine (Ensures.ofOutcome (roundLimit_permitted fun max hmax htotal =>
    hlimit htotal max hmax)).bind fun max hmax => ?_
  have hfirst : WithinLimit t max limit ⟨state, 0⟩ := by
    intro htotal
    obtain ⟨m, hm, hlt⟩ := hmax htotal
    exact ⟨m, hm, Nat.zero_le m, by show m < 0 + limit; omega⟩
  have hzero : t.total → ∀ p, ¬ WithinLimit t max 0 p := by
    intro htotal p hp
    obtain ⟨m, -, hle, hlt⟩ := hp htotal
    omega
  have hloop : Ensures t limit slots signals (Action.rounds (whileRound max) ⟨state, 0⟩)
      fun _ => True :=
    .rounds hfirst hzero fun left p hp => whileRound_ensures hcondition hp
  refine hloop.seq fun last => (hafter last).seq fun _ => ?_
  exact (Ensures.note _).seq fun _ => .pure trivial

end Flow

/-! ## §5. The other functions -/

namespace Builtin

open StepFlow.Action

variable {t : Terms} {limit : Nat} {slots : String → Bool} {signals : Bool}
  (input : State) (site : CallSite)

theorem log_ensures : Ensures t limit slots signals (log input site) fun _ => True := by
  have hlevel : Ensures t limit slots signals (ask .logLevel) fun _ => True :=
    ⟨trivial, fun _ _ => trivial⟩
  unfold log
  split
  · exact .raiseFault (t.json _)
  · refine hlevel.seq fun level => ?_
    split
    · exact (Ensures.note _).seq fun _ => .pure trivial
    · exact .pure trivial

/-- A fault of the slot becomes data. -/
theorem runSlot_ensures (hslots : ∀ name, slots name = true → signals = true) :
    Ensures t limit slots signals (runSlot input site) fun _ => True := by
  unfold runSlot
  split
  · exact .raiseFault (t.invalidInput _)
  · split
    · exact (Ensures.note _).seq fun _ => .pure trivial
    · refine (Ensures.trySlot _ _ _).bind fun r hr => ?_
      match r, hr with
      | .ok state, _ => exact .pure trivial
      | .error (.fault e), _ => exact (Ensures.note _).seq fun _ => .pure trivial
      | .error (.signal s), hr => exact .raiseSignal s (hslots _ hr)

end Builtin

/-! ## §6. The standard registry -/

/-- Whether the function under an id takes the signals that come out of a slot: loops do, but
not while they look for a condition or run something in place of their rounds. -/
def takesSignals (id slot : String) : Bool :=
  (id == Flow.foreachId && slot != "else") ||
    (id == Flow.whileId && slot != "condition" && slot != "else")

/-- Whether raising a signal is what the function under an id is for. -/
def raisesSignal (id : String) : Bool :=
  id == Flow.continueId || id == Flow.breakId

/-- What is registered after functions were registered one after the other. -/
theorem Registry.get?_registerAll {functions : List (String × Function)} :
    ∀ {registry : Registry} {id : String} {entry : Entry},
      (registry.registerAll functions).get? id = some entry →
      (∃ f ∈ functions, f.1 = id ∧ f.2 = entry.function) ∨ registry.get? id = some entry := by
  induction functions with
  | nil => exact fun h => .inr h
  | cons f rest ih =>
      intro registry id entry h
      rcases ih h with ⟨g, hg, hid⟩ | hget
      · exact .inl ⟨g, List.mem_cons_of_mem f hg, hid⟩
      · have hget : Dict.get? (Dict.insert registry.functions f.1 ⟨f.1, [], f.2⟩) id =
            some entry := hget
        by_cases hid : f.1 = id
        · subst hid
          rw [Dict.get?_insert_self] at hget
          cases hget
          exact .inl ⟨f, List.mem_cons_self, rfl, rfl⟩
        · rw [Dict.get?_insert_of_ne _ _ hid] at hget
          exact .inr hget

theorem Registry.mem_functions_of_standard {id : String} {entry : Entry}
    (hentry : standard.get? id = some entry) :
    ∃ f ∈ Flow.functions ++ [(Builtin.runSlotId, Builtin.runSlot),
      (Builtin.logId, Builtin.log), (Builtin.setId, Builtin.set)],
      f.1 = id ∧ f.2 = entry.function := by
  rcases get?_registerAll hentry with ⟨f, hf, hid⟩ | hflow
  · exact ⟨f, List.mem_append_right _ hf, hid⟩
  · rcases get?_registerAll hflow with ⟨f, hf, hid⟩ | hempty
    · exact ⟨f, List.mem_append_left _ hf, hid⟩
    · cases hempty

/-- **What the standard functions ensure.**  The function under an id keeps to the terms, if
signals may come out of it wherever it raises one or passes on one of a slot, and if it has a
limit where it is a conditional loop that has to end. -/
theorem Registry.standard_ensures {t : Terms} {limit : Nat} {slots : String → Bool}
    {signals : Bool} {id : String} {entry : Entry} (hentry : standard.get? id = some entry)
    (input : State) (site : CallSite) (hraises : raisesSignal id = true → signals = true)
    (hslots : ∀ name, slots name = true → signals = true ∨ takesSignals id name = true)
    (hlimit : t.total → id = Flow.whileId → ∀ max,
      Flow.roundLimit (Dict.get? input "maxIterations") = .ok max → ∃ m, max = some m ∧ m < limit) :
    Action.Ensures t limit slots signals (entry.function input site) fun _ => True := by
  have hpass : ∀ name, takesSignals id name = false → slots name = true → signals = true := by
    intro name hname hslot
    rcases hslots name hslot with hsignals | htakes
    · exact hsignals
    · rw [hname] at htakes
      cases htakes
  obtain ⟨f, hf, rfl, hfunction⟩ := mem_functions_of_standard hentry
  rw [← hfunction]
  simp only [Flow.functions, List.cons_append, List.nil_append, List.mem_cons, List.not_mem_nil,
    or_false] at hf
  rcases hf with rfl | rfl | rfl | rfl | rfl | rfl | rfl | rfl | rfl | rfl | rfl | rfl
  · exact Flow.branch_ensures input site fun name => hpass name rfl
  · exact Flow.foreach_ensures input site (hpass "else" rfl)
  · exact .raiseSignal _ (hraises rfl)
  · exact .raiseSignal _ (hraises rfl)
  · exact .raiseFault (t.flow _)
  · exact Flow.protect_ensures input site fun name => hpass name rfl
  · exact Flow.whileLoop_ensures input site (hpass "condition" rfl) (hpass "else" rfl)
      fun htotal => hlimit htotal rfl
  · exact Flow.parallel_ensures input site fun name => hpass name rfl
  · exact Action.Ensures.ensureActive.seq fun _ => .pure trivial
  · exact Builtin.runSlot_ensures input site fun name => hpass name rfl
  · exact Builtin.log_ensures input site
  · exact .pure trivial

end StepFlow
