import StepFlow.Proofs.PathReading
import StepFlow.Proofs.Picking

/-
  StepFlow.Proofs.Resolution
  ──────────────────────────
  What an expression becomes when it is resolved.

  Resolving a list or an object is a `map` or a `filterMap` over its parts (`eval_arr`,
  `eval_obj`).  What becomes of one part is `evalMember`, which depends on the key it
  stands under.  The statements below follow from what it does to a single part, by
  induction from the inside of a value to its outside (`Value.inductionOn`).

  `absent_iff_innermost`: an expression leads nowhere only if what is left of it without
  the optional entries around it is a text that stands for nothing.
-/

namespace StepFlow

/-! ## §1. Values from the inside to the outside -/

namespace Value

theorem sizeOf_lt_of_mem_arr {items : List Value} {v : Value} (h : v ∈ items) :
    sizeOf v < sizeOf (Value.arr items) := by
  have hitem := List.sizeOf_lt_of_mem h
  rw [Value.arr.sizeOf_spec]
  omega

theorem sizeOf_lt_of_mem_obj {members : List (String × Value)} {key : String} {v : Value}
    (h : (key, v) ∈ members) : sizeOf v < sizeOf (Value.obj members) := by
  have hmember := List.sizeOf_lt_of_mem h
  rw [Prod.mk.sizeOf_spec] at hmember
  rw [Value.obj.sizeOf_spec]
  omega

/-- What holds of a list or an object once it holds of all its parts, and of everything else, holds
of every value. -/
@[elab_as_elim]
theorem inductionOn {motive : Value → Prop} (null : motive .null)
    (bool : ∀ b, motive (.bool b)) (num : ∀ n, motive (.num n)) (str : ∀ s, motive (.str s))
    (arr : ∀ items, (∀ v ∈ items, motive v) → motive (.arr items))
    (obj : ∀ members, (∀ key v, (key, v) ∈ members → motive v) → motive (.obj members)) :
    ∀ v, motive v
  | .null => null
  | .bool b => bool b
  | .num n => num n
  | .str s => str s
  | .arr items => arr items fun v _ => inductionOn null bool num str arr obj v
  | .obj members => obj members fun _ v _ => inductionOn null bool num str arr obj v
termination_by v => sizeOf v
decreasing_by
  · exact sizeOf_lt_of_mem_arr ‹_›
  · exact sizeOf_lt_of_mem_obj ‹_›

/-- Whether a value is resolved part by part: it is a list, or an object that is neither an optional
entry nor a step definition. -/
def isContainer : Value → Bool
  | .arr _ => true
  | .obj members => !(Value.obj members).isOptionalWrapper && !(Value.obj members).isStepDefinition
  | _ => false

theorem isContainer_obj_iff {members : List (String × Value)} :
    (Value.obj members).isContainer = true ↔
      (Value.obj members).isOptionalWrapper = false ∧
        (Value.obj members).isStepDefinition = false := by
  unfold isContainer
  rw [Bool.and_eq_true, Bool.not_eq_true', Bool.not_eq_true']

theorem not_isStepDefinition_of_isContainer {v : Value} (h : v.isContainer = true) :
    v.isStepDefinition = false := by
  cases v with
  | obj members => exact (isContainer_obj_iff.mp h).2
  | null | bool _ | num _ | str _ | arr _ => rfl

/-- A part of a value that stands in no closed value, and in no member that is never resolved. -/
inductive Occurs (closed : Value → Bool) (part : Value) : Value → Prop where
  /-- The value itself. -/
  | here (hopen : closed part = false) : Occurs closed part part
  /-- A part of an item. -/
  | item {items : List Value} {v : Value} (hopen : closed (.arr items) = false)
      (hmem : v ∈ items) (h : Occurs closed part v) : Occurs closed part (.arr items)
  /-- A part of a member. -/
  | member {members : List (String × Value)} {key : String} {v : Value}
      (hopen : closed (.obj members) = false) (hmem : (key, v) ∈ members)
      (hkey : key ≠ verbatimKey) (h : Occurs closed part v) : Occurs closed part (.obj members)

end Value

/-! ## §2. What becomes of the parts -/

namespace Roots

variable {r : Roots} {items : List Value} {members : List (String × Value)} {v w : Value}
  {key : String}

/-- What a part of a list or an object stands for: a step definition for itself. -/
def evalPart (r : Roots) (v : Value) : Option Value :=
  if v.isStepDefinition then some v else r.eval v

/-- What the value under a key stands for: under the key that is never resolved, for itself. -/
def evalUnder (r : Roots) (key : String) (v : Value) : Option Value :=
  if key = verbatimKey then some v else r.evalPart v

/-- What becomes of a member: null if it is absent, or nothing if it is also optional. -/
def evalMember (r : Roots) (member : String × Value) : Option (String × Value) :=
  (filled member.2.isOptionalWrapper (r.evalUnder member.1 member.2)).map (member.1, ·)

theorem evalPart_of_isStepDefinition (h : v.isStepDefinition = true) : r.evalPart v = some v :=
  if_pos h

theorem evalPart_of_not_isStepDefinition (h : v.isStepDefinition = false) :
    r.evalPart v = r.eval v := by
  unfold evalPart
  rw [h]
  rfl

theorem evalUnder_of_ne (h : key ≠ verbatimKey) : r.evalUnder key v = r.evalPart v :=
  if_neg h

/-- The items of a list, one by one. -/
theorem evalItems_eq_map (r : Roots) (items : List Value) :
    r.evalItems items = items.map fun v => (r.evalPart v).getD .null := by
  induction items with
  | nil => rfl
  | cons v rest ih =>
      rw [evalItems, List.map_cons, ih]
      unfold evalPart
      by_cases hstep : v.isStepDefinition = true
      · rw [if_pos hstep, if_pos hstep]
        rfl
      · rw [if_neg hstep, if_neg hstep]

/-- The members of an object, one by one. -/
theorem evalMembers_eq_filterMap (r : Roots) (members : List (String × Value)) :
    r.evalMembers members = members.filterMap r.evalMember := by
  induction members with
  | nil => rfl
  | cons member rest ih =>
      obtain ⟨key, v⟩ := member
      rw [evalMembers, List.filterMap_cons, ih]
      unfold evalMember evalUnder evalPart
      by_cases hkey : key = verbatimKey
      · cases hoptional : v.isOptionalWrapper <;> simp [hkey, filled]
      · by_cases hstep : v.isStepDefinition = true
        · cases hoptional : v.isOptionalWrapper <;> simp [hkey, hstep, filled]
        · -- only here may something be absent
          cases hoptional : v.isOptionalWrapper <;> cases r.eval v <;> simp [hkey, hstep, filled]

theorem eval_arr (r : Roots) (items : List Value) :
    r.eval (.arr items) = some (.arr (items.map fun v => (r.evalPart v).getD .null)) := by
  rw [eval, evalItems_eq_map]

/-- An optional entry stands for what its value stands for. -/
theorem eval_of_isOptionalWrapper (h : (Value.obj members).isOptionalWrapper = true) :
    r.eval (.obj members) = r.eval ((Dict.get? members "value").getD .null) := by
  have hwrapper : isOptionalWrapper members = true := h
  rw [eval, if_pos hwrapper, evalWrapped_eq]

theorem eval_obj (r : Roots) (h : (Value.obj members).isContainer = true) :
    r.eval (.obj members) = some (.obj (members.filterMap r.evalMember)) := by
  obtain ⟨hwrapper, hstep⟩ := Value.isContainer_obj_iff.mp h
  have hplain : isOptionalWrapper members = false := hwrapper
  rw [eval, hplain, hstep, evalMembers_eq_filterMap]
  rfl

/-- A step definition stands for itself, unless it is an optional entry as well. -/
theorem eval_of_isStepDefinition (hwrapper : v.isOptionalWrapper = false)
    (hstep : v.isStepDefinition = true) : r.eval v = some v := by
  cases v with
  | obj members =>
      have hplain : isOptionalWrapper members = false := hwrapper
      rw [eval, hplain, hstep]
      rfl
  | null | bool _ | num _ | str _ | arr _ => cases hstep

end Roots

/-! ## §3. Absence -/

/-- What is left of an expression without the optional entries around it: as long as it is one, its
value takes its place, or null if it has none. -/
def Value.innermost (v : Value) : Value :=
  match v with
  | .obj members =>
      if (Value.obj members).isOptionalWrapper then
        match _h : Dict.get? members "value" with
        | some inner => inner.innermost
        | none => .null
      else .obj members
  | v => v
termination_by sizeOf v
decreasing_by exact sizeOf_lt_of_mem_obj (Dict.mem_of_get? ‹_›)

theorem Value.isOptionalWrapper_innermost (v : Value) :
    v.innermost.isOptionalWrapper = false := by
  fun_induction innermost v with
  | case1 members hwrapper inner hvalue ih => exact ih
  | case2 members hwrapper hvalue => rfl
  | case3 members hwrapper => exact Bool.eq_false_iff.mpr hwrapper
  | case4 v hother =>
      cases v with
      | obj members => exact absurd rfl (hother members)
      | null | bool _ | num _ | str _ | arr _ => rfl

namespace Roots

/-- The optional entries around an expression do not change what it stands for. -/
theorem eval_innermost (r : Roots) (v : Value) : r.eval v.innermost = r.eval v := by
  fun_induction Value.innermost v with
  | case1 members hwrapper inner hvalue ih =>
      rw [ih, eval_of_isOptionalWrapper hwrapper, hvalue]
      rfl
  | case2 members hwrapper hvalue =>
      rw [eval_of_isOptionalWrapper hwrapper, hvalue]
      rfl
  | case3 members hwrapper => rfl
  | case4 v hother => rfl

theorem resolveText_eq_none_iff (r : Roots) (s : String) :
    r.resolveText s = none ↔ s = resultRef ∨
      ("$.".toList <+: s.toList ∨ "$slot.".toList <+: s.toList) ∧ r.resolve s = none := by
  rw [← Path.isPath_iff]
  unfold resolveText
  by_cases hstate : s = stateRef
  · -- the text for the whole state is neither a path nor the text for the result
    subst hstate
    have hpath : Path.isPath stateRef = false := by decide
    have hresult : stateRef ≠ resultRef := by decide
    simp [hpath, hresult]
  · by_cases hresult : s = resultRef
    · rw [if_neg hstate, if_pos hresult]
      simp [hresult]
    · by_cases hpath : Path.isPath s = true <;> simp [hstate, hresult, hpath]

/-- Unless it is an optional entry, only a text can be absent. -/
theorem eval_eq_none_iff {v : Value} (r : Roots) (h : v.isOptionalWrapper = false) :
    r.eval v = none ↔ ∃ s, v = .str s ∧ r.resolveText s = none := by
  cases v with
  | str s => simp [eval]
  | arr items => simp [eval_arr]
  | obj members =>
      by_cases hstep : (Value.obj members).isStepDefinition = true
      · simp [eval_of_isStepDefinition h hstep]
      · have hcontainer := Value.isContainer_obj_iff.mpr ⟨h, Bool.eq_false_iff.mpr hstep⟩
        simp [eval_obj r hcontainer]
  | null | bool _ | num _ => simp [eval]

/-- **Absence is decided by the innermost expression.**  An expression leads nowhere if and only if
what is left of it without the optional entries around it is the text for the result, or a path that
leads nowhere.  In any case it stands for what the innermost expression stands for. -/
theorem absent_iff_innermost (r : Roots) (v : Value) :
    (r.eval v = none ↔ ∃ s, v.innermost = .str s ∧ (s = resultRef ∨
        ("$.".toList <+: s.toList ∨ "$slot.".toList <+: s.toList) ∧ r.resolve s = none)) ∧
      r.eval v = r.eval v.innermost := by
  have heval := eval_innermost r v
  refine ⟨?_, heval.symm⟩
  -- the innermost expression is no optional entry, so if it is absent it is a text
  rw [← heval, eval_eq_none_iff r v.isOptionalWrapper_innermost]
  simp only [resolveText_eq_none_iff]

end Roots

end StepFlow
