import StepFlow.Builtin
import StepFlow.Proofs.Performing
import StepFlow.Proofs.StateGrowth

/-
  StepFlow.Proofs.Picking
  ───────────────────────
  What picked keys hold.

  A spread with a list of keys, and a function that declares its outputs, take the keys
  out of an object one after the other.  What is taken out is gone, so a key that is
  listed once more is missing by then.

  `merge_picks_iff`: a picked key holds what the object has under it, with the exception
  of a key that is listed more than once in a spread that is not optional, which ends as
  null.  `declared_outputs_iff`: the result of a function has the declared keys in the
  order in which they are declared, with the same exception.
-/

namespace StepFlow

/-! ## §1. Writing what may be absent -/

/-- What is written for something that may be absent: null takes its place, unless it is
optional. -/
def filled (optional : Bool) (found : Option Value) : Option Value :=
  if optional then found else some (found.getD .null)

namespace Dict

variable {α : Type} {key other : String}

/-- Write a value, if there is one. -/
def insert? (d : Dict α) (key : String) : Option α → Dict α
  | some value => insert d key value
  | none => d

@[simp] theorem get?_insert?_self (d : Dict α) (key : String) (found : Option α) :
    get? (insert? d key found) key = found.or (get? d key) := by
  cases found with
  | none => rfl
  | some value => exact get?_insert_self d key value

theorem get?_insert?_of_ne (d : Dict α) (found : Option α) (h : key ≠ other) :
    get? (insert? d key found) other = get? d other := by
  cases found with
  | none => rfl
  | some value => exact get?_insert_of_ne d value h

theorem erase_of_get?_eq_none {d : Dict α} (h : get? d key = none) : erase d key = d := by
  induction d with
  | nil => rfl
  | cons entry rest ih =>
      obtain ⟨k, v⟩ := entry
      by_cases hk : k = key
      · rw [get?, if_pos hk] at h
        cases h
      · rw [get?, if_neg hk] at h
        rw [erase, if_neg hk, ih h]

end Dict

/-! ## §2. Picked keys -/

namespace Spread

variable {optional : Bool} {keys : List String} {payload target : State} {key : String}

/-- One key: what it finds is written and taken out. -/
theorem pickInto_cons (optional : Bool) (key : String) (keys : List String)
    (payload target : State) :
    pickInto optional (key :: keys) payload target =
      pickInto optional keys (Dict.erase payload key)
        (Dict.insert? target key (filled optional (Dict.get? payload key))) := by
  rw [pickInto]
  cases hfound : Dict.get? payload key with
  | some v => cases optional <;> rfl
  | none =>
      rw [Dict.erase_of_get?_eq_none hfound]
      cases optional <;> rfl

/-- A key that is not picked stays as it is. -/
theorem get?_pickInto_of_not_mem (h : key ∉ keys) :
    Dict.get? (pickInto optional keys payload target) key = Dict.get? target key := by
  have hgrows : Dict.GrowsBy (· ∈ keys) target (pickInto optional keys payload target) :=
    pickInto_keeps (fun state _ value hkey hstate => hstate.trans (.insert state value hkey))
      optional keys (fun _ hkey => hkey) (.refl target)
  exact hgrows.get? key h

/-- A picked key that finds nothing. -/
theorem get?_pickInto_of_missing (hkey : key ∈ keys) (hmissing : Dict.get? payload key = none) :
    Dict.get? (pickInto optional keys payload target) key =
      (filled optional none).or (Dict.get? target key) := by
  induction keys generalizing payload target with
  | nil => cases hkey
  | cons first rest ih =>
      rw [pickInto_cons]
      by_cases hfirst : first = key
      · subst hfirst
        rw [Dict.erase_of_get?_eq_none hmissing, hmissing]
        by_cases hagain : first ∈ rest
        · -- whether it is written as null once or twice is the same
          rw [ih hagain hmissing, Dict.get?_insert?_self]
          cases optional <;> rfl
        · rw [get?_pickInto_of_not_mem hagain, Dict.get?_insert?_self]
      · have hrest : key ∈ rest := (List.mem_cons.mp hkey).resolve_left fun h => hfirst h.symm
        have hstill : Dict.get? (Dict.erase payload first) key = none := by
          rw [Dict.get?_erase_of_ne payload hfirst, hmissing]
        rw [ih hrest hstill, Dict.get?_insert?_of_ne target _ hfirst]

/-- What a picked key holds in the end.  On the keys: the first time a key is listed it finds what
the object has, and after that it is missing. -/
theorem get?_pickInto (hpayload : (Dict.keys payload).Nodup) (hkey : key ∈ keys) :
    Dict.get? (pickInto optional keys payload target) key =
      if optional = false ∧ keys.count key ≠ 1 then some .null
      else (filled optional (Dict.get? payload key)).or (Dict.get? target key) := by
  induction keys generalizing payload target with
  | nil => cases hkey
  | cons first rest ih =>
      rw [pickInto_cons]
      by_cases hfirst : first = key
      · subst hfirst
        have hgone := Dict.get?_erase_self hpayload first
        rw [List.count_cons_self]
        by_cases hagain : first ∈ rest
        · have hcount : rest.count first + 1 ≠ 1 := by
            have hpos := List.count_pos_iff.mpr hagain
            omega
          rw [get?_pickInto_of_missing hagain hgone, Dict.get?_insert?_self]
          cases optional with
          | false =>
              rw [if_pos ⟨rfl, hcount⟩]
              rfl
          | true => simp [filled]
        · rw [get?_pickInto_of_not_mem hagain, Dict.get?_insert?_self,
            List.count_eq_zero_of_not_mem hagain]
          simp
      · have hrest : key ∈ rest := (List.mem_cons.mp hkey).resolve_left fun h => hfirst h.symm
        have hnodup : (Dict.keys (Dict.erase payload first)).Nodup := by
          rw [Dict.keys_erase]
          exact hpayload.erase first
        rw [ih hnodup hrest, Dict.get?_erase_of_ne payload hfirst,
          Dict.get?_insert?_of_ne target _ hfirst, List.count_cons_of_ne hfirst]

/-- **A picked key holds what the object has.**  A spread that picks keys from an object, which has
no key twice, leaves all other keys as they are.  A picked key gets the value that the object has
under it; one that is missing there becomes null, or is left alone if the spread is optional.  The
exception is a key that is listed more than once in a spread that is not optional: it becomes null,
whatever the object has. -/
theorem merge_picks_iff {s : Spread} (hpick : s.pick = some keys)
    (hpayload : (Dict.keys payload).Nodup) (target : State) :
    (∀ key, key ∉ keys →
        Dict.get? (s.merge (some (.obj payload)) target) key = Dict.get? target key) ∧
      ∀ key ∈ keys,
        (Dict.get? (s.merge (some (.obj payload)) target) key =
            (Dict.get? payload key).or (if s.optional then Dict.get? target key else some .null) ↔
          s.optional = true ∨ keys.count key = 1 ∨ (Dict.get? payload key).getD .null = .null) ∧
        (s.optional = false → keys.count key ≠ 1 →
          Dict.get? (s.merge (some (.obj payload)) target) key = some .null) := by
  have hmerge : s.merge (some (.obj payload)) target = pickInto s.optional keys payload target := by
    rw [merge, mergeInto, hpick]
  rw [hmerge]
  refine ⟨fun key hkey => get?_pickInto_of_not_mem hkey, fun key hkey => ?_⟩
  rw [get?_pickInto hpayload hkey]
  cases hoptional : s.optional with
  | true =>
      -- a key that is missing the second time keeps what it got the first time
      simp [filled]
  | false =>
      by_cases hcount : keys.count key = 1
      · cases Dict.get? payload key <;> simp [filled, hcount]
      · cases Dict.get? payload key <;> simp [hcount, eq_comm]

/-- A spread that lists one of its keys twice. -/
def twicePicked (optional : Bool) : Spread :=
  ⟨.str "$.point", some ["x", "x", "z"], optional⟩

/-- An object for it to copy from. -/
def pointMembers : State := [("x", .bool true), ("y", .bool false)]

/-- The key that is listed twice is copied if the spread is optional, and becomes null if not;
the key that is not listed stays. -/
theorem twicePicked_picks :
    Dict.get? ((twicePicked true).merge (some (.obj pointMembers)) []) "x" = some (.bool true) ∧
      Dict.get? ((twicePicked false).merge (some (.obj pointMembers)) []) "x" = some .null ∧
      Dict.get? ((twicePicked false).merge (some (.obj pointMembers)) [("y", .null)]) "y" =
        some .null := by
  have hnodup : (Dict.keys pointMembers).Nodup := by decide
  obtain ⟨-, hoptional⟩ := merge_picks_iff (s := twicePicked true) rfl hnodup []
  obtain ⟨-, hrequired⟩ := merge_picks_iff (s := twicePicked false) rfl hnodup []
  obtain ⟨hother, -⟩ := merge_picks_iff (s := twicePicked false) rfl hnodup [("y", .null)]
  exact ⟨(hoptional "x" (by decide)).1.mpr (.inl rfl),
    (hrequired "x" (by decide)).2 rfl (by decide), hother "y" (by decide)⟩

/-- The object has a value under a picked key, and the value is lost. -/
theorem twicePicked_loses_value :
    (twicePicked false).pick = some ["x", "x", "z"] ∧
      Dict.get? pointMembers "x" = some (.bool true) ∧
      Dict.get? ((twicePicked false).merge (some (.obj pointMembers)) []) "x" ≠
        some (.bool true) := by
  refine ⟨rfl, rfl, ?_⟩
  decide

/-! ## §3. Declared outputs -/

/-- The keys after required keys were picked: those that are new come last, in the order in which
each one is listed first. -/
theorem keys_pickInto (keys : List String) :
    ∀ (payload target : State), Dict.keys (pickInto false keys payload target) =
      Dict.keys target ++ (keys.filter fun key => decide (key ∉ Dict.keys target)).eraseDups := by
  induction keys with
  | nil => intro payload target; simp [pickInto]
  | cons first rest ih =>
      intro payload target
      rw [pickInto_cons]
      show Dict.keys (pickInto false rest _ (Dict.insert target first _)) = _
      rw [ih, Dict.keys_insert, List.filter_cons]
      by_cases hfirst : first ∈ Dict.keys target
      · simp [hfirst]
      · -- what comes later is new if it was new before and is not this key
        have hlater : rest.filter (fun key => decide (key ∉ Dict.keys target ++ [first])) =
            (rest.filter fun key => decide (key ∉ Dict.keys target)).filter
              fun key => !key == first := by
          rw [List.filter_filter]
          refine List.filter_congr fun key _ => ?_
          by_cases hkey : key = first <;> simp [hkey]
        simp only [if_neg hfirst, hlater]
        simp [hfirst, List.eraseDups_cons]

end Spread

namespace Engine

variable {registry : Registry} {limit : Nat} {c d : Context} {entry : Entry} {input : State}
  {site : CallSite}

/-- An object that is held to declared outputs. -/
theorem restrict_obj (houtputs : entry.outputs ≠ []) (members : State) :
    entry.restrict (.obj members) = .obj (Spread.pickInto false entry.outputs members []) := by
  simp [Entry.restrict, houtputs]

/-- What is no object is not held to anything. -/
theorem restrict_of_object?_eq_none {v : Value} (h : v.object? = none) : entry.restrict v = v := by
  cases v with
  | obj members => cases h
  | null | bool _ | num _ | str _ | arr _ => simp [Entry.restrict]

/-- **Declared outputs are what a function returns.**  A function that declares outputs returns
an object with exactly these keys, in the order in which each one is declared first, whenever it
gives an object, which has no key twice.  Under a declared key stands what the function gave, or
null; the exception is a key that is declared more than once, which is always null.  All other
results and all interrupts are returned as they are. -/
theorem declared_outputs_iff (houtputs : entry.outputs ≠ []) {x : Outcome Value}
    (h : performWithin registry limit (entry.function input site) c = some (x, d)) :
    ∃ y, enter registry (limit + 1) entry input site c = some (y, d) ∧
      (∀ i, x = .error i → y = .error i) ∧
      (∀ v, x = .ok v → v.object? = none → y = .ok v) ∧
      ∀ members, x = .ok (.obj members) → (Dict.keys members).Nodup →
        ∃ result, y = .ok (.obj result) ∧ Dict.keys result = entry.outputs.eraseDups ∧
          ∀ name ∈ entry.outputs,
            (Dict.get? result name = some ((Dict.get? members name).getD .null) ↔
              entry.outputs.count name = 1 ∨ (Dict.get? members name).getD .null = .null) ∧
            (entry.outputs.count name ≠ 1 → Dict.get? result name = some .null) := by
  refine ⟨x.map entry.restrict, ?_, ?_, ?_, ?_⟩
  · rw [enter_succ, h]
    rfl
  · rintro i rfl
    rfl
  · rintro v rfl hv
    show Except.ok (entry.restrict v) = _
    rw [restrict_of_object?_eq_none hv]
  · rintro members rfl hnodup
    refine ⟨Spread.pickInto false entry.outputs members [], ?_, ?_, fun name hname => ?_⟩
    · show Except.ok (entry.restrict (.obj members)) = _
      rw [restrict_obj houtputs]
    · -- at first there are no keys, so every declared one is new
      have hnew : entry.outputs.filter (fun name => decide (name ∉ Dict.keys ([] : State))) =
          entry.outputs := List.filter_eq_self.mpr fun name _ => rfl
      rw [Spread.keys_pickInto, hnew]
      rfl
    · rw [Spread.get?_pickInto hnodup hname]
      by_cases hcount : entry.outputs.count name = 1
      · simp [filled, hcount]
      · simp [hcount, eq_comm]

/-- A function that gives its input back and declares one of its outputs twice. -/
def twiceDeclared : Entry :=
  ⟨"point", ["x", "y", "x", "z"], Builtin.set⟩

/-- An input for it. -/
def pointInput : State := [("y", .bool false), ("x", .bool true)]

/-- The result has the declared keys in order: `y` as the function gave it, and null under `x`. -/
theorem twiceDeclared_outputs :
    ∃ result d, enter .standard 1 twiceDeclared pointInput .bare (.start .info false none) =
        some (.ok (.obj result), d) ∧
      Dict.keys result = ["x", "y", "z"] ∧ Dict.get? result "y" = some (.bool false) ∧
      Dict.get? result "x" = some .null := by
  have hruns : ∃ d, performWithin .standard 0 (twiceDeclared.function pointInput .bare)
      (.start .info false none) = some (.ok (.obj pointInput), d) := ⟨_, rfl⟩
  obtain ⟨d, hrun⟩ := hruns
  have hdeclared : twiceDeclared.outputs ≠ [] := by decide
  obtain ⟨y, henter, -, -, hobject⟩ := declared_outputs_iff hdeclared hrun
  obtain ⟨result, rfl, hkeys, hget⟩ := hobject pointInput rfl (by decide)
  refine ⟨result, d, henter, hkeys.trans (by decide), ?_, ?_⟩
  · exact (hget "y" (by decide)).1.mpr (.inl (by decide))
  · exact (hget "x" (by decide)).2 (by decide)

/-- The function gives a value under a declared key, and the value is lost. -/
theorem twiceDeclared_loses_value :
    ∃ result d e, performWithin .standard 0 (twiceDeclared.function pointInput .bare)
        (.start .info false none) = some (.ok (.obj pointInput), d) ∧
      enter .standard 1 twiceDeclared pointInput .bare (.start .info false none) =
        some (.ok (.obj result), e) ∧
      "x" ∈ twiceDeclared.outputs ∧ Dict.get? pointInput "x" = some (.bool true) ∧
      Dict.get? result "x" ≠ some (.bool true) := by
  refine ⟨_, _, _, rfl, rfl, ?_, rfl, ?_⟩
  · decide
  · decide

end Engine

end StepFlow
