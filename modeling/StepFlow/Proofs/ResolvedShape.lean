import Mathlib.Data.List.Basic
import StepFlow.Proofs.Resolution

/-
  StepFlow.Proofs.ResolvedShape
  ─────────────────────────────
  What resolving an expression leaves as it is.

  Where there is nothing to resolve, nothing changes (`eval_of_isLiteral`).  Elsewhere a
  list keeps its length, and an object its keys: which of them go is decided member by
  member (`keys_filterMap_evalMember`).  Because lists keep their length and keys stay
  with their members, a place in an expression is a place in its result, and what is
  copied is found there again (`select_evalPart_of_copied`).

  `resolution_keeps_shape` puts these together.
-/

namespace StepFlow

/-! ## §1. Literals -/

/-- Whether a text stands for something else: it is a path, or one of the two reserved texts. -/
def isReference (s : String) : Bool :=
  Path.isPath s || s == stateRef || s == resultRef

/-- A value in which there is no reference and no optional entry, step definitions and members that
are never resolved apart. -/
def Value.IsLiteral (v : Value) : Prop :=
  ∀ part, Occurs isStepDefinition part v →
    part.isOptionalWrapper = false ∧ ∀ s, part = .str s → isReference s = false

namespace Roots

variable {r : Roots} {items : List Value} {members : List (String × Value)} {v w : Value}
  {key : String}

theorem resolveText_of_not_isReference {s : String} (h : isReference s = false) :
    r.resolveText s = some (.str s) := by
  unfold isReference at h
  simp only [Bool.or_eq_false_iff, beq_eq_false_iff_ne, ne_eq] at h
  obtain ⟨⟨hpath, hstate⟩, hresult⟩ := h
  simp [resolveText, hpath, hstate, hresult]

/-- A literal is the same as a part, if it is the same on its own. -/
theorem evalPart_of_isLiteral (h : v.IsLiteral)
    (heval : v.isOptionalWrapper = false → r.eval v = some v) : r.evalPart v = some v := by
  by_cases hstep : v.isStepDefinition = true
  · exact evalPart_of_isStepDefinition hstep
  · have hopen := Bool.eq_false_iff.mpr hstep
    rw [evalPart_of_not_isStepDefinition hopen]
    exact heval (h v (.here hopen)).1

theorem evalMember_of_evalUnder (h : r.evalUnder key v = some w) :
    r.evalMember (key, v) = some (key, w) := by
  unfold evalMember
  rw [h]
  cases v.isOptionalWrapper <;> rfl

/-- A literal stands for itself. -/
theorem eval_of_isLiteral (r : Roots) {v : Value} (hwrapper : v.isOptionalWrapper = false)
    (hv : v.IsLiteral) : r.eval v = some v := by
  induction v using Value.inductionOn with
  | null | bool _ | num _ => rfl
  | str s => exact resolveText_of_not_isReference ((hv (.str s) (.here rfl)).2 s rfl)
  | arr items ih =>
      have hitems : ∀ v ∈ items, (r.evalPart v).getD .null = v := by
        intro v hmem
        have hliteral : v.IsLiteral := fun part h => hv part (.item rfl hmem h)
        rw [evalPart_of_isLiteral hliteral fun hwrapper => ih v hmem hwrapper hliteral]
        rfl
      rw [eval_arr, List.map_congr_left hitems, List.map_id']
  | obj members ih =>
      by_cases hstep : (Value.obj members).isStepDefinition = true
      · exact eval_of_isStepDefinition hwrapper hstep
      · have hopen := Bool.eq_false_iff.mpr hstep
        have hmembers : ∀ member ∈ members, r.evalMember member = some member := by
          rintro ⟨key, v⟩ hmem
          refine evalMember_of_evalUnder ?_
          by_cases hkey : key = verbatimKey
          · exact if_pos hkey
          · -- what occurs in the part occurs in the whole, so the part is a literal too
            have hliteral : v.IsLiteral := fun part h => hv part (.member hopen hmem hkey h)
            rw [evalUnder_of_ne hkey]
            exact evalPart_of_isLiteral hliteral fun hwrapper => ih key v hmem hwrapper hliteral
        rw [eval_obj r (Value.isContainer_obj_iff.mpr ⟨hwrapper, hopen⟩),
          List.filterMap_congr hmembers, List.filterMap_some]

/-! ## §2. The keys of an object -/

/-- Whether a member is left out: it is an optional entry that leads nowhere, and neither a step
definition nor under the key that is never resolved. -/
def omits (r : Roots) (member : String × Value) : Bool :=
  member.1 != verbatimKey && member.2.isOptionalWrapper && !member.2.isStepDefinition &&
    (r.eval member.2).isNone

theorem evalMember_eq_none_iff (r : Roots) (member : String × Value) :
    r.evalMember member = none ↔ r.omits member = true := by
  obtain ⟨key, v⟩ := member
  unfold evalMember omits evalUnder evalPart
  -- what is copied is never absent
  by_cases hkey : key = verbatimKey
  · cases v.isOptionalWrapper <;> simp [hkey, filled]
  · by_cases hstep : v.isStepDefinition = true
    · cases v.isOptionalWrapper <;> simp [hkey, hstep, filled]
    · cases v.isOptionalWrapper <;> simp [hkey, hstep, filled]

theorem fst_of_evalMember {member result : String × Value} (h : r.evalMember member = some result) :
    result.1 = member.1 := by
  obtain ⟨w, -, rfl⟩ := Option.map_eq_some_iff.mp h
  rfl

theorem keys_filterMap_evalMember (r : Roots) (members : List (String × Value)) :
    Dict.keys (members.filterMap r.evalMember) =
      Dict.keys (members.filter fun member => !r.omits member) := by
  induction members with
  | nil => rfl
  | cons member rest ih =>
      simp only [Dict.keys] at ih
      rw [List.filterMap_cons, List.filter_cons]
      cases hmember : r.evalMember member with
      | none =>
          have homits := (evalMember_eq_none_iff r member).mp hmember
          simp [Dict.keys, homits, ih]
      | some result =>
          have hkept : r.omits member = false := by
            rw [Bool.eq_false_iff, ne_eq, ← evalMember_eq_none_iff, hmember]
            exact Option.some_ne_none result
          simp [Dict.keys, hkept, ih, fst_of_evalMember hmember]

end Roots

/-! ## §3. Places -/

/-- What stands at a place of a value that is reached through lists and objects that are resolved
part by part. -/
inductive Value.Reaches : Value → List String → Value → Prop where
  /-- The value itself. -/
  | here (v : Value) : Reaches v [] v
  /-- Through one of its parts. -/
  | into {v part w : Value} {segment : String} {place : List String}
      (hcontainer : v.isContainer = true) (henter : Path.enter v segment = some part)
      (h : Reaches part place w) : Reaches v (segment :: place) w

theorem Value.Reaches.select {v w : Value} {place : List String} (h : v.Reaches place w) :
    Path.select v place = some w := by
  induction h with
  | here v => rfl
  | into hcontainer henter h ih =>
      rw [Path.select_cons, henter]
      exact ih

namespace Roots

variable {r : Roots} {items : List Value} {members : List (String × Value)}
  {v part result w : Value} {key segment : String} {place : List String}

/-- The first member of a key is still the first one, if it is not left out. -/
theorem get?_filterMap_evalMember (hget : Dict.get? members key = some part)
    (hpart : r.evalUnder key part = some result) :
    Dict.get? (members.filterMap r.evalMember) key = some result := by
  induction members with
  | nil => cases hget
  | cons member rest ih =>
      obtain ⟨k, v⟩ := member
      rw [List.filterMap_cons]
      by_cases hk : k = key
      · subst hk
        rw [Dict.get?, if_pos rfl] at hget
        cases hget
        rw [evalMember_of_evalUnder hpart]
        show Dict.get? ((k, result) :: rest.filterMap r.evalMember) k = some result
        rw [Dict.get?, if_pos rfl]
      · rw [Dict.get?, if_neg hk] at hget
        cases hmember : r.evalMember (k, v) with
        | none => exact ih hget
        | some found =>
            -- it keeps its own key, so it is not found under this one
            have hfound : found.1 ≠ key := by
              rw [fst_of_evalMember hmember]
              exact hk
            show Dict.get? ((found.1, found.2) :: rest.filterMap r.evalMember) key = some result
            rw [Dict.get?, if_neg hfound]
            exact ih hget

/-- A part that stands for something is replaced by it, where it is. -/
theorem enter_eval (hv : v.isContainer = true) (henter : Path.enter v segment = some part)
    (hpart : r.evalUnder segment part = some result) :
    ∃ whole, r.eval v = some whole ∧ Path.enter whole segment = some result := by
  cases v with
  | obj members => exact ⟨_, eval_obj r hv, get?_filterMap_evalMember henter hpart⟩
  | arr items =>
      refine ⟨_, eval_arr r items, ?_⟩
      obtain ⟨i, hi, hitem⟩ := Option.bind_eq_some_iff.mp henter
      -- a list has no item under the key that is never resolved
      have hkey : segment ≠ verbatimKey := by
        rintro rfl
        cases hi
      rw [evalUnder_of_ne hkey] at hpart
      show ((Path.word? segment).bind fun i =>
        (items.map fun v => (r.evalPart v).getD .null)[i]?) = some result
      rw [hi, Option.bind_some, List.getElem?_map, hitem, Option.map_some, hpart]
      rfl
  | null | bool _ | num _ | str _ => cases hv

/-- What is copied is found where it was. -/
theorem select_evalPart_of_copied (h : v.Reaches place w)
    (hcopied : w.isStepDefinition = true ∨ place.getLast? = some verbatimKey) :
    ∃ whole, r.evalPart v = some whole ∧ Path.select whole place = some w := by
  induction h with
  | here v =>
      have hstep : v.isStepDefinition = true := hcopied.resolve_right (by simp)
      exact ⟨v, evalPart_of_isStepDefinition hstep, rfl⟩
  | @into v part w segment place hcontainer henter h ih =>
      rw [evalPart_of_not_isStepDefinition (Value.not_isStepDefinition_of_isContainer hcontainer)]
      by_cases hkey : segment = verbatimKey
      · -- from here on all the way is copied
        obtain ⟨whole, heval, hinto⟩ := enter_eval (r := r) hcontainer henter (if_pos hkey)
        refine ⟨whole, heval, ?_⟩
        rw [Path.select_cons, hinto]
        exact h.select
      · -- the part ahead is resolved in its turn, with the rest of the way in it
        have hlater : w.isStepDefinition = true ∨ place.getLast? = some verbatimKey := by
          cases place with
          | nil => exact hcopied.imp_right fun hlast => absurd (Option.some.inj hlast) hkey
          | cons next rest => rwa [List.getLast?_cons_cons] at hcopied
        obtain ⟨inner, hinner, hselect⟩ := ih hlater
        obtain ⟨whole, heval, hinto⟩ :=
          enter_eval hcontainer henter ((evalUnder_of_ne hkey).trans hinner)
        refine ⟨whole, heval, ?_⟩
        rw [Path.select_cons, hinto]
        exact hselect

/-- **Resolution keeps the shape and leaves data alone.**  An expression that is no optional entry
and in which there is nothing to resolve stands for itself.  A list stands for a list of the same
length.  An object that is neither an optional entry nor a step definition stands for an object with
the same keys in the same order, but for the optional entries that lead nowhere.  A step definition,
and whatever is under the key `bindings`, is found in the result at the place where it was. -/
theorem resolution_keeps_shape (r : Roots) :
    (∀ v, v.isOptionalWrapper = false → v.IsLiteral → r.eval v = some v) ∧
      (∀ items, ∃ results, r.eval (.arr items) = some (.arr results) ∧
        results.length = items.length) ∧
      (∀ members, (Value.obj members).isOptionalWrapper = false →
        (Value.obj members).isStepDefinition = false →
        ∃ results, r.eval (.obj members) = some (.obj results) ∧
          Dict.keys results = Dict.keys (members.filter fun member => !r.omits member)) ∧
      ∀ v place w, v.Reaches place w →
        (w.isStepDefinition = true ∨ place.getLast? = some verbatimKey) →
        (place = [] → v.isOptionalWrapper = false) →
        ∃ whole, r.eval v = some whole ∧ Path.select whole place = some w := by
  refine ⟨fun v hwrapper hv => eval_of_isLiteral r hwrapper hv,
    fun items => ⟨_, eval_arr r items, List.length_map ..⟩,
    fun members hwrapper hstep => ?_, fun v place w h hcopied htop => ?_⟩
  · exact ⟨_, eval_obj r (Value.isContainer_obj_iff.mpr ⟨hwrapper, hstep⟩),
      keys_filterMap_evalMember r members⟩
  · obtain ⟨whole, heval, hselect⟩ := select_evalPart_of_copied (r := r) h hcopied
    refine ⟨whole, ?_, hselect⟩
    rw [← heval]
    -- only at the top is there a difference between a value and a part
    cases h with
    | here v =>
        have hstep : v.isStepDefinition = true := hcopied.resolve_right (by simp)
        rw [eval_of_isStepDefinition (htop rfl) hstep, evalPart_of_isStepDefinition hstep]
    | into hcontainer henter h =>
        rw [evalPart_of_not_isStepDefinition (Value.not_isStepDefinition_of_isContainer hcontainer)]

/-- A step definition that is an optional entry as well. -/
def optionalStep : Value :=
  .obj [("call", .str "lcod://impl/set@1"), (optionalFlag, .bool true), ("value", .str "$.none")]

/-- A list in which a path stands in a step definition and in a member that is never resolved. -/
def quotedPaths : Value :=
  .arr [.str "$", optionalStep, .obj [("bindings", .str "$.none")]]

theorem quotedPaths_isLiteral : quotedPaths.IsLiteral := by
  intro part h
  cases h with
  | here hopen => exact ⟨rfl, nofun⟩
  | item hopen hmem h =>
      simp only [List.mem_cons, List.not_mem_nil, or_false] at hmem
      rcases hmem with rfl | rfl | rfl
      · cases h
        exact ⟨rfl, fun s hs => by cases hs; decide⟩
      · cases h with
        | here hclosed | member hclosed => cases hclosed
      · cases h with
        | here hopen => exact ⟨rfl, nofun⟩
        | member hopen hmem hkey h =>
            rw [List.mem_singleton] at hmem
            cases hmem
            exact absurd rfl hkey

/-- A path beside such a step definition. -/
def quotingList : List Value := [.str "$.none", optionalStep]

/-- Members of which the first is left out. -/
def quotingMembers : List (String × Value) :=
  [("gone", .obj [(optionalFlag, .bool true), ("value", .str "$.none")]),
    ("bindings", .str "$.none"), ("steps", .arr quotingList)]

/-- With nothing to read, quoted paths stay as they are, and a step definition stays where it is
even if it is an optional entry as well. -/
theorem quotedPaths_keep_shape :
    (⟨[], []⟩ : Roots).eval quotedPaths = some quotedPaths ∧
      (∃ items, (⟨[], []⟩ : Roots).eval (.arr quotingList) = some (.arr items) ∧
        items.length = 2) ∧
      ∃ results, (⟨[], []⟩ : Roots).eval (.obj quotingMembers) = some (.obj results) ∧
        Dict.keys results = ["bindings", "steps"] ∧
        Path.select (.obj results) ["steps", "1"] = some optionalStep := by
  obtain ⟨hliteral, hlist, hobject, hcopied⟩ := resolution_keeps_shape ⟨[], []⟩
  obtain ⟨results, hresults, hkeys⟩ := hobject quotingMembers (by decide) (by decide)
  have hinner : (Value.arr quotingList).Reaches ["1"] optionalStep :=
    .into (by decide) (by decide) (.here optionalStep)
  have hreaches : (Value.obj quotingMembers).Reaches ["steps", "1"] optionalStep :=
    .into (by decide) (by decide) hinner
  obtain ⟨whole, hwhole, hselect⟩ := hcopied _ _ _ hreaches (.inl (by decide)) nofun
  rw [hresults] at hwhole
  cases hwhole
  exact ⟨hliteral quotedPaths (by decide) quotedPaths_isLiteral, hlist quotingList, results,
    hresults, hkeys.trans (by decide), hselect⟩

end Roots

end StepFlow
