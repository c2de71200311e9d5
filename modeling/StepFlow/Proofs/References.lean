import Mathlib.Data.List.Basic
import StepFlow.Proofs.Resolution

/-
  StepFlow.Proofs.References
  ──────────────────────────
  What a step's input depends on.

  An expression mentions the texts that stand in it, those in members that are never
  resolved and in step definitions apart.  Nothing else decides what is read: two pairs
  of roots that agree on the mentioned paths, and on the state if its text is mentioned,
  give an expression the same value (`eval_eq_of_agreeOn`).  In particular a value that
  was read is never resolved in its turn, whatever texts it holds.

  `input_eq_of_agreeOn`: they give a step the same input.
-/

namespace StepFlow

/-! ## §1. What is mentioned -/

/-- Whether nothing in a value is read: it is a step definition, and not an optional entry as
well. -/
def Value.isSealed (v : Value) : Bool :=
  v.isStepDefinition && !v.isOptionalWrapper

/-- Whether an expression holds a text, sealed values and members that are never resolved apart. -/
def Value.Mentions (v : Value) (s : String) : Prop :=
  Occurs isSealed (.str s) v

/-- Whether the source of a spread or the expression of an entry mentions a text. -/
def Bindings.Mentions (b : Bindings) (s : String) : Prop :=
  (∃ spread ∈ b.spreads, spread.source.Mentions s) ∨
    ∃ entry ∈ b.entries, entry.2.expr.Mentions s

namespace Value

variable {items : List Value} {members : List (String × Value)} {v : Value} {s text key : String}

theorem mentions_str_iff : (Value.str text).Mentions s ↔ s = text := by
  constructor
  · intro h
    cases h
    rfl
  · rintro rfl
    exact .here rfl

theorem mentions_arr_iff : (Value.arr items).Mentions s ↔ ∃ v ∈ items, v.Mentions s := by
  constructor
  · intro h
    cases h with
    | item hopen hmem h => exact ⟨_, hmem, h⟩
  · rintro ⟨v, hmem, h⟩
    exact .item rfl hmem h

theorem mentions_obj_iff : (Value.obj members).Mentions s ↔
    (Value.obj members).isSealed = false ∧
      ∃ member ∈ members, member.1 ≠ verbatimKey ∧ member.2.Mentions s := by
  constructor
  · intro h
    cases h with
    | member hopen hmem hkey h => exact ⟨hopen, _, hmem, hkey, h⟩
  · rintro ⟨hopen, ⟨key, v⟩, hmem, hkey, h⟩
    exact .member hopen hmem hkey h

end Value

/-! ## §2. Roots that agree -/

/-- Two pairs of roots agree on what is mentioned: the mentioned paths lead to the same, and the
state is the same if its text is mentioned. -/
structure Roots.AgreeOn (mentioned : String → Prop) (r₁ r₂ : Roots) : Prop where
  paths : ∀ p, mentioned p → Path.isPath p = true → r₁.resolve p = r₂.resolve p
  state : mentioned stateRef → r₁.state = r₂.state

namespace Roots

variable {r₁ r₂ : Roots} {v : Value}

theorem AgreeOn.mono {P Q : String → Prop} (h : AgreeOn P r₁ r₂) (hQ : ∀ s, Q s → P s) :
    AgreeOn Q r₁ r₂ :=
  ⟨fun p hp => h.paths p (hQ p hp), fun hs => h.state (hQ stateRef hs)⟩

theorem resolveText_eq_of_agreeOn {s : String} (h : AgreeOn (s = ·) r₁ r₂) :
    r₁.resolveText s = r₂.resolveText s := by
  unfold resolveText
  by_cases hstate : s = stateRef
  · rw [if_pos hstate, if_pos hstate, h.state hstate]
  · by_cases hpath : Path.isPath s = true
    · simp [hstate, hpath, h.paths s rfl hpath]
    · simp [hstate, hpath]

/-- Unless it is copied, a member depends on the roots through what its value stands for. -/
theorem evalMember_eq_of_eval_eq {key : String} (h : key ≠ verbatimKey → r₁.eval v = r₂.eval v) :
    r₁.evalMember (key, v) = r₂.evalMember (key, v) := by
  unfold evalMember evalUnder evalPart
  by_cases hkey : key = verbatimKey
  · rw [if_pos hkey, if_pos hkey]
  · rw [h hkey]

/-- What is read for an expression depends on what it mentions only. -/
theorem eval_eq_of_agreeOn (h : AgreeOn v.Mentions r₁ r₂) : r₁.eval v = r₂.eval v := by
  -- what a part mentions the whole mentions too, so the roots agree on every part
  induction v using Value.inductionOn with
  | null | bool _ | num _ => rfl
  | str s =>
      refine resolveText_eq_of_agreeOn (h.mono ?_)
      rintro _ rfl
      exact Value.mentions_str_iff.mpr rfl
  | arr items ih =>
      have hparts : ∀ v ∈ items, r₁.evalPart v = r₂.evalPart v := by
        intro v hmem
        have hv := ih v hmem (h.mono fun s hs => Value.mentions_arr_iff.mpr ⟨v, hmem, hs⟩)
        unfold evalPart
        rw [hv]
      rw [eval_arr, eval_arr]
      refine congrArg (fun items => some (Value.arr items)) (List.map_congr_left fun v hmem => ?_)
      rw [hparts v hmem]
  | obj members ih =>
      by_cases hwrapper : (Value.obj members).isOptionalWrapper = true
      · -- of all its members, only the value is read
        rw [eval_of_isOptionalWrapper hwrapper, eval_of_isOptionalWrapper hwrapper]
        cases hvalue : Dict.get? members "value" with
        | none => rfl
        | some v =>
            have hmem := Dict.mem_of_get? hvalue
            have hopen : (Value.obj members).isSealed = false := by simp [Value.isSealed, hwrapper]
            have hkey : "value" ≠ verbatimKey := by decide
            refine ih "value" v hmem (h.mono fun s hs => Value.mentions_obj_iff.mpr ?_)
            exact ⟨hopen, ("value", v), hmem, hkey, hs⟩
      · have hplain := Bool.eq_false_iff.mpr hwrapper
        by_cases hstep : (Value.obj members).isStepDefinition = true
        · rw [eval_of_isStepDefinition hplain hstep, eval_of_isStepDefinition hplain hstep]
        · have hopen : (Value.obj members).isSealed = false := by simp [Value.isSealed, hstep]
          have hcontainer := Value.isContainer_obj_iff.mpr ⟨hplain, Bool.eq_false_iff.mpr hstep⟩
          rw [eval_obj r₁ hcontainer, eval_obj r₂ hcontainer]
          refine congrArg (fun members => some (Value.obj members)) (List.filterMap_congr ?_)
          rintro ⟨key, v⟩ hmem
          refine evalMember_eq_of_eval_eq fun hkey => ih key v hmem (h.mono fun s hs => ?_)
          exact Value.mentions_obj_iff.mpr ⟨hopen, (key, v), hmem, hkey, hs⟩

end Roots

/-! ## §3. Inputs -/

namespace Bindings

variable {b : Bindings} {r₁ r₂ : Roots}

/-- **An input depends on what is referenced only.**  If every path that the spread sources and the
entries of a binding map mention leads to the same from two pairs of roots, and the two states are
the same if the text for the state is mentioned, then both give the same input, in the same
order. -/
theorem input_eq_of_agreeOn (h : Roots.AgreeOn b.Mentions r₁ r₂) : b.input r₁ = b.input r₂ := by
  have hspreads : b.spreadInput r₁ = b.spreadInput r₂ := by
    refine List.foldl_ext _ _ _ fun target s hmem => ?_
    have hsource : r₁.eval s.source = r₂.eval s.source :=
      Roots.eval_eq_of_agreeOn (h.mono fun _ hs => .inl ⟨s, hmem, hs⟩)
    rw [hsource]
  unfold input
  rw [hspreads]
  refine List.foldl_ext _ _ _ fun target e hmem => ?_
  have hexpr : r₁.eval e.2.expr = r₂.eval e.2.expr :=
    Roots.eval_eq_of_agreeOn (h.mono fun _ hs => .inr ⟨e, hmem, hs⟩)
  rw [hexpr]

/-- A step definition with a path in it. -/
def quotingStep : Value :=
  .obj [("call", .str "lcod://impl/set@1"), ("in", .str "$.secret")]

/-- A spread, an entry that reads a slot variable, and two in which a path is only quoted. -/
def selective : Bindings :=
  ⟨[⟨.str "$.point", none, false⟩],
    [("item", .optional (.str "$slot.item")), ("steps", .required (.arr [quotingStep])),
      ("quoted", .required (.obj [("bindings", .str "$.secret")]))]⟩

theorem mentions_selective {s : String} (h : selective.Mentions s) :
    s = "$.point" ∨ s = "$slot.item" := by
  have hsealed : quotingStep.isSealed = true := by decide
  have hquoting : ¬ quotingStep.Mentions s := by
    unfold quotingStep at hsealed ⊢
    simp [Value.mentions_obj_iff, hsealed]
  simpa [Bindings.Mentions, selective, Binding.expr, hquoting, Value.mentions_str_iff,
    Value.mentions_arr_iff, Value.mentions_obj_iff, verbatimKey] using h

/-- Roots with a secret.  What may be read from them looks like a path to it, and like the text for
the state. -/
def secretRoots (secret : Bool) : Roots :=
  ⟨[("point", .obj [("x", .str "$.secret")]), ("secret", .bool secret)],
    [("item", .str "__lcod_state__")]⟩

/-- Neither the quoted paths nor the texts that are read give the secret away. -/
theorem selective_keeps_secret :
    (secretRoots false).state ≠ (secretRoots true).state ∧
      Roots.AgreeOn selective.Mentions (secretRoots false) (secretRoots true) ∧
      selective.input (secretRoots false) = selective.input (secretRoots true) := by
  have hagree : Roots.AgreeOn selective.Mentions (secretRoots false) (secretRoots true) := by
    constructor
    · intro p hp _
      rcases mentions_selective hp with rfl | rfl <;> decide
    · intro hs
      rcases mentions_selective hs with h | h <;> exact absurd h (by decide)
  exact ⟨by decide, hagree, input_eq_of_agreeOn hagree⟩

end Bindings

end StepFlow
