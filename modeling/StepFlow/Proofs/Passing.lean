import StepFlow.Builtin

/-
  StepFlow.Proofs.Passing
  ───────────────────────
  Which interrupts functions raise, and which they only pass on.

  `Yields` says how a program ends if the answers it gets are good.  A function
  only passes an interrupt on if it does not end with it as long as none of its
  requests did.  The standard functions only pass on the fault of a missing
  runner (`standard_onlyPasses`): what they raise of themselves is something else.
-/

namespace StepFlow

/-! ## §1. What programs end with -/

/-- A program whose results satisfy `post`, provided that the answers to its requests are
good. -/
def Program.Yields (good : (r : Request) → r.Reply → Prop) :
    {α : Type} → Program α → (α → Prop) → Prop
  | _, .done a, post => post a
  | _, .ask r next, post => ∀ x, good r x → (next x).Yields good post
  | _, .inScope body next, post =>
      ∃ mid, body.Yields good mid ∧ ∀ b, mid b → (next b).Yields good post
  | _, .rounds round first next, post =>
      ∃ inv mid, inv first ∧ (∀ s, inv s → (round s).Yields good (Sum.elim inv mid)) ∧
        ∀ b, mid b → (next b).Yields good post

theorem Program.Yields.bind {α β : Type} {good : (r : Request) → r.Reply → Prop} {p : Program α}
    {f : α → Program β} {mid : α → Prop} {post : β → Prop} (hp : p.Yields good mid)
    (hf : ∀ a, mid a → (f a).Yields good post) : (p.bind f).Yields good post := by
  induction p with
  | done a => exact hf a hp
  | ask r next ih => exact fun x hx => ih x (hp x hx) hf
  | inScope body next _ ih =>
      obtain ⟨inner, hbody, hnext⟩ := hp
      exact ⟨inner, hbody, fun b hb => ih b (hnext b hb) hf⟩
  | rounds round first next _ ih =>
      obtain ⟨inv, inner, hfirst, hround, hnext⟩ := hp
      exact ⟨inv, inner, hfirst, hround, fun b hb => ih b (hnext b hb) hf⟩

/-- An answer that is not this interrupt. -/
def Request.Spares (i : Interrupt) : (r : Request) → r.Reply → Prop
  | .call .., x => x ≠ .error i
  | .invoke .., x => x ≠ .error i
  | .runSlot .., x => x ≠ .error i
  | .runChildren .., x => x ≠ .error i
  | .runSteps .., x => x ≠ .error i
  | _, _ => True

/-! ## §2. Actions -/

namespace Action

variable {α β σ : Type} {i : Interrupt}

/-- A result that satisfies `post`, or an interrupt other than `i`. -/
def Avoids (i : Interrupt) (post : α → Prop) : Outcome α → Prop
  | .ok a => post a
  | .error j => j ≠ i

/-- An action that does not end with the interrupt `i` unless one of its requests did, and
whose results satisfy `post`. -/
def Passes (i : Interrupt) (m : Action α) (post : α → Prop) : Prop :=
  m.run.Yields (Request.Spares i) (Avoids i post)

theorem Passes.pure {post : α → Prop} {a : α} (ha : post a) : Passes i (pure a) post := ha

theorem Passes.raise {post : α → Prop} {j : Interrupt} (hj : j ≠ i) :
    Passes i (raise j) post := hj

theorem Passes.bind {m : Action α} {f : α → Action β} {mid : α → Prop} {post : β → Prop}
    (hm : Passes i m mid) (hf : ∀ a, mid a → Passes i (f a) post) : Passes i (m >>= f) post := by
  refine Program.Yields.bind hm fun r hr => ?_
  cases r with
  | ok a => exact hf a hr
  | error j => exact hr

/-- A first part whose result does not matter. -/
theorem Passes.seq {m : Action α} {f : α → Action β} {mid : α → Prop} {post : β → Prop}
    (hm : Passes i m mid) (hf : ∀ a, Passes i (f a) post) : Passes i (m >>= f) post :=
  hm.bind fun a _ => hf a

theorem Passes.ask (r : Request) : Passes i (ask r) (r.Spares i) :=
  fun _ hx => hx

theorem Passes.ofOutcome {x : Outcome α} (hx : x ≠ .error i) :
    Passes i (ofOutcome x) fun _ => True := by
  cases x with
  | ok a => exact .pure trivial
  | error j =>
      refine .raise ?_
      rintro rfl
      exact hx rfl

theorem Passes.runSlot (name : String) (state vars : Option State) :
    Passes i (runSlot name state vars) fun _ => True :=
  (Passes.ask (.runSlot name state vars)).bind fun _ hx => .ofOutcome hx

theorem Passes.rounds {round : σ → Action (σ ⊕ β)}
    (hround : ∀ s, Passes i (round s) fun _ => True) (first : σ) :
    Passes i (rounds round first) fun _ => True := by
  refine ⟨fun _ => True, Avoids i fun _ => True, trivial, fun s _ => ?_, fun b hb => hb⟩
  refine Program.Yields.bind (hround s) fun r hr => ?_
  -- an interrupt of a round ends the loop and is its outcome
  cases r with
  | error j => exact hr
  | ok next =>
      cases next with
      | inl s => exact trivial
      | inr b => exact trivial

end Action

/-- No function ends with this interrupt, unless one of its own requests did. -/
def Registry.OnlyPasses (registry : Registry) (i : Interrupt) : Prop :=
  ∀ id entry, registry.get? id = some entry → ∀ input site,
    Action.Passes i (entry.function input site) fun _ => True

/-! ## §3. The standard functions -/

/-- The fault of a nested run without a runner. -/
def Interrupt.noRunner (name : String) : Interrupt := .fault (.runnerUnavailable name)

namespace Flow

open StepFlow.Action

variable (name : String) (input : State) (site : CallSite)

theorem ensureActive_passes : Passes (.noRunner name) ensureActive fun _ => True := by
  refine (Passes.ask .isCancelled).seq fun cancelled => ?_
  split
  · exact .raise nofun
  · exact .pure trivial

theorem branch_passes : Passes (.noRunner name) (branch input site) fun _ => True :=
  (Passes.ask _).seq fun _ => (Passes.runSlot _ _ _).seq fun _ => .pure trivial

theorem eachItem_passes : ∀ (index : Nat) (items acc : List Value),
    Passes (.noRunner name) (eachItem site index items acc) fun _ => True := by
  intro index items
  induction items generalizing index with
  | nil => intro acc; exact .pure trivial
  | cons item rest ih =>
      intro acc
      refine (ensureActive_passes name).seq fun _ => (Passes.ask _).bind fun r hr => ?_
      -- a fault of the slot is passed on, the rest goes on or ends the loop
      match r, hr with
      | .ok state, _ => exact ih _ _
      | .error (.signal .next), _ => exact ih _ _
      | .error (.signal .leave), _ => exact .pure trivial
      | .error (.fault e), hr => exact .ofOutcome hr

theorem noItems_passes : Passes (.noRunner name) (noItems site) fun _ => True := by
  refine (Passes.runSlot _ _ _).seq fun state => ?_
  split
  · exact .pure trivial
  · exact .pure trivial

theorem foreach_passes : Passes (.noRunner name) (foreach input site) fun _ => True := by
  unfold foreach
  dsimp only
  split
  · exact (noItems_passes name site).seq fun _ => .pure trivial
  · refine (Passes.ask _).seq fun _ => (eachItem_passes name site _ _ _).seq fun _ => ?_
    exact .pure trivial

theorem eachTask_passes : ∀ (index : Nat) (tasks acc : List Value),
    Passes (.noRunner name) (eachTask site index tasks acc) fun _ => True := by
  intro index tasks
  induction tasks generalizing index with
  | nil => intro acc; exact .pure trivial
  | cons task rest ih =>
      intro acc
      refine (ensureActive_passes name).seq fun _ => (Passes.ask _).seq fun r => ?_
      -- here a fault is raised again in its structured form
      match r with
      | .ok state => exact ih _ _
      | .error (.fault e) => exact .raise nofun
      | .error (.signal s) => exact .raise nofun

theorem parallel_passes : Passes (.noRunner name) (parallel input site) fun _ => True := by
  unfold parallel
  split
  · exact (eachTask_passes name site _ _ _).seq fun _ => .pure trivial
  · exact .pure trivial

theorem runPhase_passes (slot phase : String) (error : Option FlowError) :
    Passes (.noRunner name) (runPhase slot phase error) fun _ => True :=
  (Passes.ask _).seq fun _ => .pure trivial

theorem handle_passes (settled : Settled) :
    Passes (.noRunner name) (handle site settled) fun _ => True := by
  cases settled with
  | done state => exact .pure trivial
  | signalled s => exact .pure trivial
  | failed e =>
      show Passes _ (if site.hasSlot "catch" then _ else _) _
      split
      · exact (Passes.ask _).seq fun _ => runPhase_passes name _ _ _
      · exact .pure trivial

/-- A failure that is raised again has its structured form. -/
theorem protect_passes : Passes (.noRunner name) (protect input site) fun _ => True := by
  refine (runPhase_passes name _ _ _).seq fun tried => ?_
  refine (handle_passes name site tried).seq fun settled => ?_
  have hconclude : ∀ last, Passes (.noRunner name) (ofOutcome (settled.conclude last))
      fun _ => True := by
    intro last
    refine .ofOutcome ?_
    cases settled <;> exact nofun
  dsimp only
  split
  · exact (Passes.runSlot _ _ _).seq hconclude
  · exact hconclude []

theorem verdict_ne (output : State) : verdict output ≠ .error (.noRunner name) := by
  unfold verdict
  dsimp only
  split
  · exact nofun
  · split
    · exact nofun
    · exact nofun

theorem whileRound_passes (limit : Option Nat) (p : LoopPoint) :
    Passes (.noRunner name) (whileRound limit p) fun _ => True := by
  refine (ensureActive_passes name).seq fun _ => ?_
  split
  · exact .raise nofun
  · refine (Passes.runSlot _ _ _).seq fun output => (ensureActive_passes name).seq fun _ => ?_
    refine (Passes.ofOutcome (verdict_ne name output)).seq fun ⟨proceed, replacement⟩ => ?_
    dsimp only
    split
    · refine (Passes.ask _).bind fun r hr => ?_
      match r, hr with
      | .ok next, _ => exact .pure trivial
      | .error (.signal .next), _ => exact .pure trivial
      | .error (.signal .leave), _ => exact .pure trivial
      | .error (.fault e), hr => exact .ofOutcome hr
    · exact .pure trivial

theorem whileLoop_passes : Passes (.noRunner name) (whileLoop input site) fun _ => True := by
  have hstate : ∀ v, loopState v ≠ .error (.noRunner name) := by
    intro v
    unfold loopState
    split <;> exact nofun
  have hlimit : ∀ v, roundLimit v ≠ .error (.noRunner name) := by
    intro v
    unfold roundLimit
    dsimp only
    repeat' split
    all_goals exact nofun
  have hafter : ∀ p, Passes (.noRunner name) (afterLoop site p) fun _ => True := by
    intro p
    unfold afterLoop
    split
    · exact .runSlot _ _ _
    · exact .pure trivial
  refine (Passes.ofOutcome (hstate _)).seq fun state => ?_
  refine (Passes.ofOutcome (hlimit _)).seq fun limit => ?_
  refine (Passes.rounds (whileRound_passes name limit) _).seq fun last => ?_
  exact (hafter last).seq fun _ => (Passes.ask _).seq fun _ => .pure trivial

end Flow

namespace Builtin

open StepFlow.Action

variable (name : String) (input : State) (site : CallSite)

theorem log_passes : Passes (.noRunner name) (log input site) fun _ => True := by
  unfold log
  split
  · exact .raise nofun
  · refine (Passes.ask .logLevel).seq fun level => ?_
    split
    · exact (Passes.ask _).seq fun _ => .pure trivial
    · exact .pure trivial

/-- A fault of the slot becomes data. -/
theorem runSlot_passes : Passes (.noRunner name) (runSlot input site) fun _ => True := by
  unfold runSlot
  split
  · exact .raise nofun
  · split
    · exact (Passes.ask _).seq fun _ => .pure trivial
    · refine (Passes.ask _).seq fun r => ?_
      match r with
      | .ok state => exact .pure trivial
      | .error (.fault e) => exact (Passes.ask _).seq fun _ => .pure trivial
      | .error (.signal s) => exact .raise nofun

end Builtin

namespace Registry

variable {i : Interrupt}

theorem onlyPasses_register {registry : Registry} (h : registry.OnlyPasses i) (id : String)
    {function : Function}
    (hfunction : ∀ input site, Action.Passes i (function input site) fun _ => True) :
    (registry.register id function).OnlyPasses i := by
  intro id' entry hentry input site
  have hget : Dict.get? (Dict.insert registry.functions id ⟨id, [], function⟩) id' = some entry :=
    hentry
  by_cases hid : id = id'
  · subst hid
    rw [Dict.get?_insert_self] at hget
    cases hget
    exact hfunction input site
  · rw [Dict.get?_insert_of_ne _ _ hid] at hget
    exact h id' entry hget input site

theorem onlyPasses_registerAll {registry : Registry} (h : registry.OnlyPasses i)
    {functions : List (String × Function)}
    (hfunctions : ∀ f ∈ functions, ∀ input site, Action.Passes i (f.2 input site) fun _ => True) :
    (registry.registerAll functions).OnlyPasses i := by
  induction functions generalizing registry with
  | nil => exact h
  | cons f rest ih =>
      refine ih (onlyPasses_register h f.1 (hfunctions f (List.mem_cons_self ..))) ?_
      exact fun g hg => hfunctions g (List.mem_cons_of_mem f hg)

/-- The standard functions only pass on the fault of a missing runner. -/
theorem standard_onlyPasses (name : String) : standard.OnlyPasses (.noRunner name) := by
  have hempty : empty.OnlyPasses (.noRunner name) := by
    intro id entry hentry
    cases hentry
  refine onlyPasses_registerAll (onlyPasses_registerAll hempty ?_) ?_
  · simp only [Flow.functions, List.forall_mem_cons, List.not_mem_nil, false_implies, implies_true,
      and_true]
    exact ⟨Flow.branch_passes name, Flow.foreach_passes name, fun _ _ => .raise nofun,
      fun _ _ => .raise nofun, fun _ _ => .raise nofun, Flow.protect_passes name,
      Flow.whileLoop_passes name, Flow.parallel_passes name,
      fun _ _ => (Flow.ensureActive_passes name).seq fun _ => .pure trivial⟩
  · simp only [List.forall_mem_cons, List.not_mem_nil, false_implies, implies_true, and_true]
    exact ⟨Builtin.runSlot_passes name, Builtin.log_passes name, fun _ _ => .pure trivial⟩

end Registry

end StepFlow
