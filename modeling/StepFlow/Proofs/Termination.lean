import StepFlow.Proofs.Discipline
import StepFlow.Proofs.Limit
import StepFlow.Proofs.StateGrowth

/-
  StepFlow.Proofs.Termination
  ───────────────────────────
  Documents whose runs always end.

  Nothing but a conditional loop can keep a run of the standard functions going.
  A document in which each such loop is given a limit, as a number above zero that
  stands in its bindings, therefore has a result from every state: lists are finite
  however long they are, nested sequences are nested to a certain depth, and each
  loop gives up after its limit, each time it is entered again.

  `Step.limitNeededIn` reads off the document how large the limit of a run has to
  be.  Within that limit and every larger one the run has one and the same report
  (`executeWithin_ends`).
-/

namespace StepFlow

/-! ## §1. Limits in bindings -/

/-- Whether a number is above zero. -/
def Number.isPositive : Number → Bool
  | .int i => decide (0 < i)
  | .float x => !x.isZero && !x.isNegative

/-- The double nearest to a number above zero is above zero too. -/
theorem Number.toBinary64_positive {n : Number} (h : n.isPositive = true) :
    n.toBinary64.isZero = false ∧ n.toBinary64.isNegative = false := by
  cases n with
  | int i => exact Binary64.ofInt_positive (of_decide_eq_true h)
  | float x =>
      show x.isZero = false ∧ x.isNegative = false
      simpa [isPositive] using h

/-- Whether a value is a number above zero. -/
def Value.isPositiveNumber : Value → Bool
  | .num n => n.isPositive
  | _ => false

namespace Bindings

/-- The expressions that entries have under a key. -/
def exprsUnder (entries : List (String × Binding)) (key : String) : List Value :=
  (entries.filter (·.1 == key)).map (·.2.expr)

/-- Writing entries one after the other leaves under a key the value of one of its entries, or
what was there if it has none.  The expressions under the key stand for themselves. -/
theorem get?_write {r : Roots} {key : String} :
    ∀ {entries : List (String × Binding)},
      (∀ e ∈ exprsUnder entries key, r.eval e = some e) → ∀ target : State,
      let written := entries.foldl (fun target e => e.2.write e.1 (r.eval e.2.expr) target) target
      (∃ e ∈ exprsUnder entries key, Dict.get? written key = some e) ∨
        (exprsUnder entries key = [] ∧ Dict.get? written key = Dict.get? target key) := by
  intro entries
  induction entries with
  | nil => exact fun _ target => .inr ⟨rfl, rfl⟩
  | cons entry rest ih =>
      obtain ⟨name, binding⟩ := entry
      intro hself target
      by_cases hname : name = key
      · subst hname
        have hunder : exprsUnder ((name, binding) :: rest) name =
            binding.expr :: exprsUnder rest name := by
          simp [exprsUnder]
        rw [hunder, List.forall_mem_cons] at hself
        rw [hunder]
        -- a later entry may write the key again; if none does, this one was the last
        refine .inl ?_
        rcases ih hself.2 (binding.write name (r.eval binding.expr) target) with hlater | hlast
        · obtain ⟨e, he, hget⟩ := hlater
          exact ⟨e, List.mem_cons_of_mem _ he, hget⟩
        · refine ⟨binding.expr, List.mem_cons_self, hlast.2.trans ?_⟩
          rw [hself.1]
          exact Dict.get?_insert_self _ _ _
      · have hunder : exprsUnder ((name, binding) :: rest) key = exprsUnder rest key := by
          simp [exprsUnder, hname]
        have hwrite : Dict.GrowsBy (name = ·) target
            (binding.write name (r.eval binding.expr) target) :=
          binding.write_keeps (fun state _ value hkey h => h.trans (.insert state value hkey)) rfl _
            (.refl target)
        have hother := hwrite.get? key hname
        rw [hunder] at hself ⊢
        rcases ih hself (binding.write name (r.eval binding.expr) target) with hlater | hnone
        · exact .inl hlater
        · exact .inr ⟨hnone.1, hnone.2.trans hother⟩

/-- A key that has entries gets the value of one of them, whatever the spreads copy. -/
theorem get?_input {b : Bindings} {r : Roots} {key : String}
    (hself : ∀ e ∈ exprsUnder b.entries key, r.eval e = some e)
    (hsome : exprsUnder b.entries key ≠ []) :
    ∃ e ∈ exprsUnder b.entries key, Dict.get? (b.input r) key = some e := by
  rcases get?_write hself (b.spreadInput r) with hentry | hnone
  · exact hentry
  · exact (hsome hnone.1).elim

end Bindings

/-! ## §2. The limit that a document needs -/

namespace Flow

/-- How many rounds a loop may take with a value for its limit; zero where the value sets
none. -/
def roundsFor (v : Value) : Nat :=
  match roundLimit (some v) with
  | .ok (some m) => m
  | _ => 0

/-- A number above zero is a limit, if it is taken at all. -/
theorem roundLimit_of_positive {v : Value} (hv : v.isPositiveNumber = true) {max : Option Nat}
    (h : roundLimit (some v) = .ok max) : max = some (roundsFor v) := by
  have hsome : ∃ m, max = some m := by
    cases v with
    | num n =>
        obtain ⟨hzero, hnegative⟩ := Number.toBinary64_positive hv
        simp only [roundLimit, hzero, hnegative, Bool.or_self, Bool.false_eq_true, if_false] at h
        split at h
        · cases h
          exact ⟨_, rfl⟩
        · cases h
    | _ => cases hv
  -- so the case of `roundsFor` without a limit does not come up
  obtain ⟨m, rfl⟩ := hsome
  unfold roundsFor
  rw [h]

end Flow

namespace Step

/-- Whether a step that loops on a condition has a limit for its rounds: a number above zero
stands in its bindings. -/
def isBounded (step : Step) : Bool :=
  let limits := Bindings.exprsUnder step.inputs.entries "maxIterations"
  step.call != Flow.whileId || (!limits.isEmpty && limits.all Value.isPositiveNumber)

/-- The limit that the rounds of a step need: one more than there may be. -/
def roundsNeeded (call : String) (inputs : Bindings) : Nat :=
  let limits := Bindings.exprsUnder inputs.entries "maxIterations"
  if call = Flow.whileId then (limits.map Flow.roundsFor).max?.getD 0 + 1 else 0

end Step

mutual
/-- The limit that the run of a step needs: one more than its rounds and the sequences nested
in it. -/
def Step.limitNeeded : Step → Nat
  | ⟨call, inputs, _, slots, children, _⟩ =>
      max (Step.roundsNeeded call inputs)
        (max (Step.limitNeededChildren children) (Step.limitNeededSlots slots)) + 1
/-- The same for the default sequence of a step. -/
def Step.limitNeededChildren : Option (List Step) → Nat
  | none => 0
  | some steps => Step.limitNeededIn steps
/-- The same for the slots of a step. -/
def Step.limitNeededSlots : List (String × List Step) → Nat
  | [] => 0
  | (_, steps) :: rest => max (Step.limitNeededIn steps) (Step.limitNeededSlots rest)
/-- The same for the steps of a sequence. -/
def Step.limitNeededIn : List Step → Nat
  | [] => 0
  | step :: rest => max step.limitNeeded (Step.limitNeededIn rest)
end

namespace Step

theorem limitNeeded_eq (s : Step) :
    s.limitNeeded = max (roundsNeeded s.call s.inputs)
      (max (limitNeededChildren s.children) (limitNeededSlots s.slots)) + 1 := by
  cases s
  rfl

theorem limitNeeded_le_of_mem {steps : List Step} {step : Step} (h : step ∈ steps) :
    step.limitNeeded ≤ limitNeededIn steps := by
  induction steps with
  | nil => cases h
  | cons first rest ih =>
      unfold limitNeededIn
      rcases List.mem_cons.mp h with rfl | hrest
      · omega
      · have := ih hrest
        omega

theorem limitNeededIn_le_of_mem {slots : List (String × List Step)}
    {entry : String × List Step} (h : entry ∈ slots) :
    limitNeededIn entry.2 ≤ limitNeededSlots slots := by
  induction slots with
  | nil => cases h
  | cons first rest ih =>
      unfold limitNeededSlots
      rcases List.mem_cons.mp h with rfl | hrest
      · omega
      · have := ih hrest
        omega

/-- What is nested in a step needs less than the step, -/
theorem limitNeeded_lt_of_mem_sequences {s : Step} {entry : String × List Step}
    (hentry : entry ∈ s.sequences) {inner : Step} (hinner : inner ∈ entry.2) :
    inner.limitNeeded < s.limitNeeded := by
  have hle := limitNeeded_le_of_mem hinner
  rw [limitNeeded_eq s]
  rcases List.mem_append.mp hentry with hchildren | hslots
  · cases hs : s.children with
    | none =>
        rw [hs] at hchildren
        cases hchildren
    | some steps =>
        rw [hs] at hchildren
        obtain rfl := List.mem_singleton.mp hchildren
        have hle : inner.limitNeeded ≤ limitNeededChildren (some steps) := hle
        omega
  · have := limitNeededIn_le_of_mem hslots
    omega

/-- and so do its rounds. -/
theorem roundsNeeded_lt (s : Step) : roundsNeeded s.call s.inputs < s.limitNeeded := by
  rw [limitNeeded_eq s]
  omega

/-- A step that loops on a condition and has limits in its bindings runs within one of
them, for which the limit that the step needs is enough. -/
theorem roundLimit_of_isBounded {step : Step} (hbounded : step.isBounded = true)
    (hwhile : step.call = Flow.whileId) (r : Roots) {max : Option Nat}
    (h : Flow.roundLimit (Dict.get? (step.inputs.input r) "maxIterations") = .ok max) :
    ∃ m, max = some m ∧ m < roundsNeeded step.call step.inputs := by
  have hlimits : Bindings.exprsUnder step.inputs.entries "maxIterations" ≠ [] ∧
      ∀ e ∈ Bindings.exprsUnder step.inputs.entries "maxIterations",
        e.isPositiveNumber = true := by
    simpa [isBounded, hwhile] using hbounded
  -- a number stands for itself
  have hself : ∀ e ∈ Bindings.exprsUnder step.inputs.entries "maxIterations",
      r.eval e = some e := by
    intro e he
    have hpositive := hlimits.2 e he
    cases e with
    | num n => rfl
    | _ => cases hpositive
  obtain ⟨e, he, hget⟩ := Bindings.get?_input hself hlimits.1
  rw [hget] at h
  refine ⟨Flow.roundsFor e, Flow.roundLimit_of_positive (hlimits.2 e he) h, ?_⟩
  have hle : Flow.roundsFor e ≤ (List.map Flow.roundsFor _).max?.getD 0 :=
    List.le_max?_getD_of_mem (List.mem_map_of_mem he)
  unfold roundsNeeded
  rw [if_pos hwhile]
  omega

end Step

/-! ## §3. Runs that end -/

/-- Any fault may come up, but every part has to end. -/
def Terms.ending : Terms where
  faults _ := True
  total := True
  flow _ := trivial
  invalidInput _ := trivial
  json _ := trivial

/-- To have limits is a discipline.  It asks for nothing else: what is called need not be
registered, and signals may be raised anywhere. -/
def Discipline.limits : Discipline .ending where
  admits limit inLoop step :=
    inLoop = true ∧ (∃ flag, step.everywhere (fun _ => Step.isBounded) flag = true) ∧
      step.limitNeeded ≤ limit
  registered := fun _ _ => trivial
  placed := fun h _ => h.1
  inherited := by
    rintro limit inLoop step ⟨rfl, ⟨flag, hbounded⟩, hlimit⟩ entry hentry inner hinner
    have hlt := Step.limitNeeded_lt_of_mem_sequences hentry hinner
    exact ⟨rfl, ⟨_, (Step.everywhere_iff.mp hbounded).2 entry hentry inner hinner⟩, by omega⟩
  starts := by
    rintro - inLoop step ⟨-, -, hlimit⟩
    have := step.roundsNeeded_lt
    omega
  bounded := by
    rintro - limit inLoop step ⟨-, ⟨flag, hbounded⟩, hlimit⟩ hwhile r max hmax
    obtain ⟨m, hm, hlt⟩ :=
      Step.roundLimit_of_isBounded (Step.everywhere_iff.mp hbounded).1 hwhile r hmax
    have := step.roundsNeeded_lt
    exact ⟨m, hm, by omega⟩

namespace Session

/-- **A document whose conditional loops have limits always has a result**, from every state,
under all settings and whatever else its steps do. -/
theorem executeWithin_ends {steps : List Step}
    (hsteps : Step.everywhereIn (fun _ => Step.isBounded) false steps = true)
    (settings : Settings) (cancelled : Bool) (initial : State) :
    ∃ report, ∀ limit, Step.limitNeededIn steps ≤ limit →
      executeWithin limit .standard settings cancelled steps initial = some report := by
  -- signals may come out of the run: it is as if a loop were around it
  have hadmits : ∀ step ∈ steps,
      Discipline.limits.admits (Step.limitNeededIn steps) true step := by
    intro step hstep
    have hbounded := Step.everywhereIn_iff.mp hsteps step hstep
    exact ⟨rfl, ⟨false, hbounded⟩, Step.limitNeeded_le_of_mem hstep⟩
  have hcancelled : cancelled = true → Terms.ending.faults .cancelled := fun _ => trivial
  have hclock : settings.timeoutMs ≠ none → Terms.ending.faults .cancelled := fun _ => trivial
  obtain ⟨hends, -⟩ := Discipline.limits.executeWithin_ensures hadmits hcancelled hclock initial
  -- what the needed limit gives, every larger one gives too
  obtain ⟨report, hreport⟩ := Option.ne_none_iff_exists'.mp (hends trivial)
  exact ⟨report, fun limit hle => executeWithin_mono hle hreport⟩

/-- A loop over items with a loop inside it that goes on for ever but for its limit: its body
raises the signal for the next round, which drops whatever the body did. -/
def stubbornLoop : List Step :=
  let again : Step := ⟨Flow.continueId, .empty, .empty, [], none, none⟩
  let whole : Bindings := ⟨[⟨.str "$", none, false⟩], []⟩
  [⟨Flow.foreachId, ⟨[], [("list", .required (.str "$.items"))]⟩, .empty, [],
    some [⟨Flow.whileId, ⟨[], [("maxIterations", .required (.num (.int 3)))]⟩, .empty,
      [("condition", [⟨Builtin.setId, ⟨[], [("cond", .required (.bool true))]⟩, whole, [], none,
          none⟩]),
        ("body", [again])],
      none, none⟩], none⟩]

/-- Limits from six on are enough for it, however many items there are. -/
theorem stubbornLoop_ends :
    Step.everywhereIn (fun _ => Step.isBounded) false stubbornLoop = true ∧
      ∀ items, ∃ report, ∀ limit, 6 ≤ limit →
        executeWithin limit .standard .default false stubbornLoop [("items", .arr items)] =
          some report := by
  have hsteps : Step.everywhereIn (fun _ => Step.isBounded) false stubbornLoop = true := by
    decide
  have hlimit : Step.limitNeededIn stubbornLoop = 6 := by decide +kernel
  refine ⟨hsteps, fun items => ?_⟩
  rw [← hlimit]
  exact executeWithin_ends hsteps .default false [("items", .arr items)]

end Session

end StepFlow
