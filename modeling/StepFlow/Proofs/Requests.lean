import StepFlow.Proofs.Standard

/-
  StepFlow.Proofs.Requests
  ────────────────────────
  What functions ask for.

  A program uses only certain requests if it makes no others, whatever the answers
  are.  The standard functions run slots, look at the flag and report what they
  do; only logging also looks at the level and writes records (`standard_uses`).
-/

namespace StepFlow

/-! ## §1. Programs -/

/-- A program that makes only allowed requests. -/
def Program.Uses (allowed : Request → Prop) : {α : Type} → Program α → Prop
  | _, .done _ => True
  | _, .ask r next => allowed r ∧ ∀ x, (next x).Uses allowed
  | _, .inScope body next => body.Uses allowed ∧ ∀ b, (next b).Uses allowed
  | _, .rounds round _ next => (∀ s, (round s).Uses allowed) ∧ ∀ b, (next b).Uses allowed

namespace Program

variable {α β : Type} {allowed : Request → Prop}

theorem uses_of_forall (hallowed : ∀ r, allowed r) (p : Program α) : p.Uses allowed := by
  induction p with
  | done a => trivial
  | ask r next ih => exact ⟨hallowed r, ih⟩
  | inScope body next ihbody ih => exact ⟨ihbody, ih⟩
  | rounds round first next ihround ih => exact ⟨ihround, ih⟩

theorem Uses.bind {p : Program α} {f : α → Program β} (hp : p.Uses allowed)
    (hf : ∀ a, (f a).Uses allowed) : (p.bind f).Uses allowed := by
  induction p with
  | done a => exact hf a
  | ask r next ih => exact ⟨hp.1, fun x => ih x (hp.2 x) hf⟩
  | inScope body next _ ih => exact ⟨hp.1, fun b => ih b (hp.2 b) hf⟩
  | rounds round first next _ ih => exact ⟨hp.1, fun b => ih b (hp.2 b) hf⟩

end Program

/-- The requests of the flow functions: a slot of the step, the flag, and a report. -/
inductive Request.IsFlow : Request → Prop where
  | runSlot (name : String) (state vars : Option State) : IsFlow (.runSlot name state vars)
  | isCancelled : IsFlow .isCancelled
  | report (n : FlowNote) : IsFlow (.note (.flow n))

/-! ## §2. Actions -/

namespace Action

variable {α β σ : Type} {allowed : Request → Prop}

/-- An action that makes only allowed requests. -/
def Uses (allowed : Request → Prop) (m : Action α) : Prop :=
  m.run.Uses allowed

theorem Uses.pure (a : α) : Uses allowed (pure a) :=
  trivial

theorem Uses.raise (i : Interrupt) : Uses allowed (raise i : Action α) :=
  trivial

theorem Uses.ofOutcome (x : Outcome α) : Uses allowed (ofOutcome x) := by
  cases x with
  | ok a => exact .pure a
  | error i => exact .raise i

theorem Uses.bind {m : Action α} {f : α → Action β} (hm : Uses allowed m)
    (hf : ∀ a, Uses allowed (f a)) : Uses allowed (m >>= f) := by
  refine Program.Uses.bind hm fun r => ?_
  cases r with
  | ok a => exact hf a
  | error i => trivial

theorem Uses.ask {r : Request} (hr : allowed r) : Uses allowed (ask r) :=
  ⟨hr, fun _ => trivial⟩

theorem Uses.rounds {round : σ → Action (σ ⊕ β)} (hround : ∀ s, Uses allowed (round s))
    (first : σ) : Uses allowed (rounds round first) :=
  ⟨fun s => Program.Uses.bind (hround s) fun _ => trivial, fun _ => trivial⟩

theorem Uses.report (n : FlowNote) : Uses Request.IsFlow (report n) :=
  .ask (.report n)

theorem Uses.trySlot (name : String) (state vars : Option State) :
    Uses Request.IsFlow (trySlot name state vars) :=
  .ask (.runSlot name state vars)

theorem Uses.runSlot (name : String) (state vars : Option State) :
    Uses Request.IsFlow (runSlot name state vars) :=
  (Uses.trySlot name state vars).bind fun x => .ofOutcome x

theorem Uses.ensureActive : Uses Request.IsFlow ensureActive := by
  refine (Uses.ask .isCancelled).bind fun cancelled => ?_
  split
  · exact .raise _
  · exact .pure _

end Action

/-! ## §3. The standard functions -/

namespace Flow

open StepFlow.Action

variable (input : State) (site : CallSite)

theorem branch_uses : Uses Request.IsFlow (branch input site) :=
  (Uses.report _).bind fun _ => (Uses.runSlot _ _ _).bind fun _ => .pure _

theorem eachItem_uses : ∀ (index : Nat) (items acc : List Value),
    Uses Request.IsFlow (eachItem site index items acc) := by
  intro index items
  induction items generalizing index with
  | nil => exact fun acc => .pure _
  | cons item rest ih =>
      refine fun acc => Uses.ensureActive.bind fun _ => (Uses.trySlot _ _ _).bind fun r => ?_
      match r with
      | .ok state => exact ih _ _
      | .error (.signal .next) => exact ih _ _
      | .error (.signal .leave) => exact .pure _
      | .error (.fault e) => exact .raise _

theorem foreach_uses : Uses Request.IsFlow (foreach input site) := by
  have hnone : Uses Request.IsFlow (noItems site) := by
    refine (Uses.runSlot _ _ _).bind fun state => ?_
    split
    · exact .pure _
    · exact .pure _
  unfold foreach
  dsimp only
  split
  · exact hnone.bind fun _ => .pure _
  · exact (Uses.report _).bind fun _ => (eachItem_uses site _ _ _).bind fun _ => .pure _

theorem eachTask_uses : ∀ (index : Nat) (tasks acc : List Value),
    Uses Request.IsFlow (eachTask site index tasks acc) := by
  intro index tasks
  induction tasks generalizing index with
  | nil => exact fun acc => .pure _
  | cons task rest ih =>
      refine fun acc => Uses.ensureActive.bind fun _ => (Uses.trySlot _ _ _).bind fun r => ?_
      match r with
      | .ok state => exact ih _ _
      | .error (.fault e) => exact .raise _
      | .error (.signal s) => exact .raise _

theorem parallel_uses : Uses Request.IsFlow (parallel input site) := by
  unfold parallel
  split
  · exact (eachTask_uses site _ _ _).bind fun _ => .pure _
  · exact .pure _

theorem runPhase_uses (slot phase : String) (error : Option FlowError) :
    Uses Request.IsFlow (runPhase slot phase error) :=
  (Uses.trySlot _ _ _).bind fun _ => .pure _

theorem handle_uses (settled : Settled) : Uses Request.IsFlow (handle site settled) := by
  cases settled with
  | done state => exact .pure _
  | signalled s => exact .pure _
  | failed e =>
      show Uses _ (if site.hasSlot "catch" then _ else _)
      split
      · exact (Uses.report _).bind fun _ => runPhase_uses _ _ _
      · exact .pure _

theorem protect_uses : Uses Request.IsFlow (protect input site) := by
  refine (runPhase_uses _ _ _).bind fun tried => (handle_uses site tried).bind fun settled => ?_
  dsimp only
  split
  · exact (Uses.runSlot _ _ _).bind fun last => .ofOutcome _
  · exact .ofOutcome _

theorem whileRound_uses (limit : Option Nat) (p : LoopPoint) :
    Uses Request.IsFlow (whileRound limit p) := by
  refine Uses.ensureActive.bind fun _ => ?_
  split
  · exact .raise _
  · refine (Uses.runSlot _ _ _).bind fun output => Uses.ensureActive.bind fun _ => ?_
    refine (Uses.ofOutcome (verdict output)).bind fun ⟨proceed, replacement⟩ => ?_
    dsimp only
    split
    · refine (Uses.trySlot _ _ _).bind fun r => ?_
      match r with
      | .ok next => exact .pure _
      | .error (.signal .next) => exact .pure _
      | .error (.signal .leave) => exact .pure _
      | .error (.fault e) => exact .raise _
    · exact .pure _

theorem whileLoop_uses : Uses Request.IsFlow (whileLoop input site) := by
  have hafter : ∀ p, Uses Request.IsFlow (afterLoop site p) := by
    intro p
    unfold afterLoop
    split
    · exact .runSlot _ _ _
    · exact .pure _
  refine (Uses.ofOutcome _).bind fun state => (Uses.ofOutcome _).bind fun limit => ?_
  refine (Uses.rounds (whileRound_uses limit) _).bind fun last => (hafter last).bind fun _ => ?_
  exact (Uses.report _).bind fun _ => .pure _

end Flow

namespace Builtin

open StepFlow.Action

theorem runSlot_uses (input : State) (site : CallSite) :
    Uses Request.IsFlow (runSlot input site) := by
  unfold runSlot
  split
  · exact .raise _
  · split
    · exact (Uses.report _).bind fun _ => .pure _
    · refine (Uses.trySlot _ _ _).bind fun r => ?_
      match r with
      | .ok state => exact .pure _
      | .error (.fault e) => exact (Uses.report _).bind fun _ => .pure _
      | .error (.signal s) => exact .raise _

end Builtin

/-- Every standard function makes the requests of flow functions only, but for the one that
logs. -/
theorem Registry.standard_uses {id : String} {entry : Entry}
    (hentry : standard.get? id = some entry) :
    entry.function = Builtin.log ∨
      ∀ input site, Action.Uses Request.IsFlow (entry.function input site) := by
  obtain ⟨f, hf, -, hfunction⟩ := mem_functions_of_standard hentry
  rw [← hfunction]
  simp only [Flow.functions, List.cons_append, List.nil_append, List.mem_cons, List.not_mem_nil,
    or_false] at hf
  rcases hf with rfl | rfl | rfl | rfl | rfl | rfl | rfl | rfl | rfl | rfl | rfl | rfl
  · exact .inr Flow.branch_uses
  · exact .inr Flow.foreach_uses
  · exact .inr fun _ _ => .raise _
  · exact .inr fun _ _ => .raise _
  · exact .inr fun _ _ => .raise _
  · exact .inr Flow.protect_uses
  · exact .inr Flow.whileLoop_uses
  · exact .inr Flow.parallel_uses
  · exact .inr fun _ _ => Action.Uses.ensureActive.bind fun _ => .pure _
  · exact .inr Builtin.runSlot_uses
  · exact .inl rfl
  · exact .inr fun _ _ => .pure _

end StepFlow
