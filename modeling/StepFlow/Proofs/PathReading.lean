import StepFlow.Path

/-
  StepFlow.Proofs.PathReading
  ───────────────────────────
  The two readers of paths agree.

  A path of an input is divided at its points; its first part names a dictionary, and
  the others lead on from there (`Roots.resolve`).  A path of an output is stripped of
  its `$` and followed into the result (`Path.selectRelative`).

  Both are described by what follows the root's name: nothing (`resolve_name`), or a
  point and segments (`resolve_below`).  Every text is of one of these two forms, so
  the lemmas say what any text leads to.

  `readers_agree`: below `$` the first reader finds what the second finds in the state,
  below `$slot` what it finds in the slot variables, and nowhere else does it find
  anything.
-/

namespace StepFlow

namespace Path

/-! ## §1. Dividing a text at its points -/

theorem splitDots_eq_splitOn (cs : List Char) : splitDots cs = cs.splitOn '.' := by
  induction cs with
  | nil => rfl
  | cons c rest ih =>
      rw [splitDots, List.splitOn_cons_eq_if_modifyHead, ih]
      by_cases hc : c = '.'
      · simp [hc]
      · -- there is a first part for the character to go to
        cases hparts : rest.splitOn '.' with
        | nil => exact absurd hparts (List.splitOn_ne_nil '.' rest)
        | cons part parts => simp [hc]

theorem segments_ne_nil (s : String) : segments s ≠ [] := by
  unfold segments
  rw [splitDots_eq_splitOn, ne_eq, List.map_eq_nil_iff]
  exact List.splitOn_ne_nil '.' s.toList

/-- A text without a point is its only segment. -/
theorem segments_of_no_point {name : String} (h : '.' ∉ name.toList) : segments name = [name] := by
  unfold segments
  rw [splitDots_eq_splitOn, List.splitOn_eq_singleton h]
  simp

/-- The first point ends the first segment. -/
theorem segments_append {name : String} (h : '.' ∉ name.toList) (rest : String) :
    segments (name ++ "." ++ rest) = name :: segments rest := by
  have hchars : (name ++ "." ++ rest).toList = name.toList ++ '.' :: rest.toList := by simp
  unfold segments
  rw [hchars, splitDots_eq_splitOn, List.splitOn_append_cons_self_of_not_mem h,
    ← splitDots_eq_splitOn]
  simp

/-- Every text is a name, or a name with a point and more after it. -/
theorem exists_name (p : String) :
    '.' ∉ p.toList ∨ ∃ name rest : String, '.' ∉ name.toList ∧ p = name ++ "." ++ rest := by
  by_cases hpoint : '.' ∈ p.toList
  · obtain ⟨before, after, hp, hbefore⟩ := List.eq_append_cons_of_mem hpoint
    refine .inr ⟨String.ofList before, String.ofList after, by simpa using hbefore, ?_⟩
    rw [← String.toList_inj, hp]
    simp
  · exact .inl hpoint

/-! ## §2. Following segments -/

theorem select_cons (v : Value) (segment : String) (rest : List String) :
    select v (segment :: rest) = (enter v segment).bind fun w => select w rest := by
  rw [select]
  cases enter v segment <;> rfl

/-- A walk in two parts. -/
theorem select_append (v : Value) (first second : List String) :
    select v (first ++ second) = (select v first).bind fun w => select w second := by
  induction first generalizing v with
  | nil => rfl
  | cons segment rest ih =>
      rw [List.cons_append, select_cons, select_cons]
      cases enter v segment with
      | none => rfl
      | some w => exact ih w

/-- The value itself. -/
theorem selectRelative_root (v : Value) : selectRelative v "$" = some v := rfl

theorem selectRelative_below (v : Value) (rest : String) :
    selectRelative v ("$" ++ ("." ++ rest)) = select v (segments rest) := by
  have hchars : ("$" ++ ("." ++ rest)).toList = '$' :: '.' :: rest.toList := by simp
  unfold selectRelative
  rw [hchars]
  rfl

/-! ## §3. The root of a path -/

/-- A path starts at a root if it is the root's name, or starts with the name and a point. -/
def StartsAt (root p : String) : Prop :=
  p = root ∨ (root ++ ".").toList <+: p.toList

instance (root p : String) : Decidable (StartsAt root p) :=
  inferInstanceAs (Decidable (_ ∨ _))

/-- What follows the name of the root at which a path starts. -/
theorem startsAt_append_iff (root rest : String) :
    StartsAt root (root ++ rest) ↔ rest = "" ∨ ∃ below, rest = "." ++ below := by
  unfold StartsAt
  refine or_congr ?_ ?_
  · simp
  · constructor
    · rintro ⟨below, hbelow⟩
      refine ⟨String.ofList below, ?_⟩
      rw [← String.toList_inj]
      simpa using hbelow.symm
    · rintro ⟨below, rfl⟩
      exact ⟨below.toList, by simp⟩

theorem exists_of_startsAt {root p : String} (h : StartsAt root p) : ∃ rest, p = root ++ rest := by
  rcases h with rfl | ⟨below, hbelow⟩
  · exact ⟨"", by simp⟩
  · refine ⟨"." ++ String.ofList below, ?_⟩
    rw [← String.toList_inj, ← hbelow]
    simp

theorem isPath_iff (s : String) :
    isPath s = true ↔ "$.".toList <+: s.toList ∨ "$slot.".toList <+: s.toList := by
  unfold isPath isStatePath
  rw [Bool.or_eq_true, List.isPrefixOf_iff_prefix, List.isPrefixOf_iff_prefix]
  rfl

end Path

namespace Roots

variable {name : String}

theorem named?_of_ne (r : Roots) (hstate : name ≠ "$") (hslot : name ≠ "$slot") :
    r.named? name = none := by
  unfold named?
  rw [if_neg hstate, if_neg hslot]

/-- A bare name stands for the whole dictionary. -/
theorem resolve_name (r : Roots) (h : '.' ∉ name.toList) :
    r.resolve name = (r.named? name).map .obj := by
  simp only [resolve, Path.segments_of_no_point h]
  cases r.named? name <;> rfl

/-- Whatever follows the name is looked up in the dictionary. -/
theorem resolve_below (r : Roots) (h : '.' ∉ name.toList) (rest : String) :
    r.resolve (name ++ "." ++ rest) =
      (r.named? name).bind fun members => Path.select (.obj members) (Path.segments rest) := by
  simp only [resolve, Path.segments_append h]
  cases r.named? name with
  | none => rfl
  | some members =>
      -- the dictionary is entered by the first segment, and there always is one
      cases hsegments : Path.segments rest with
      | nil => exact absurd hsegments (Path.segments_ne_nil rest)
      | cons first others => exact (Path.select_cons (.obj members) first others).symm

/-- From a root that there is, both readers find the same. -/
theorem resolve_eq_selectRelative (r : Roots) {members : State} (hname : '.' ∉ name.toList)
    (hnamed : r.named? name = some members) {rest : String}
    (hstarts : Path.StartsAt name (name ++ rest)) :
    r.resolve (name ++ rest) = Path.selectRelative (.obj members) ("$" ++ rest) := by
  -- a bare name gives both the whole dictionary, a name with a point the same walk
  rcases (Path.startsAt_append_iff name rest).mp hstarts with rfl | ⟨below, rfl⟩
  · rw [String.append_empty, String.append_empty, resolve_name r hname, hnamed,
      Path.selectRelative_root]
    rfl
  · rw [← String.append_assoc, resolve_below r hname, hnamed, Path.selectRelative_below]
    rfl

/-- **The two readers agree.**  A path that is `$` or starts with `$.` leads to what the reader of
outputs finds in the state.  A path that is `$slot` or starts with `$slot.` leads to what it finds
in the slot variables, once `$slot` is replaced by `$`.  Every other text leads nowhere. -/
theorem readers_agree (r : Roots) (p : String) :
    (Path.StartsAt "$" p → r.resolve p = Path.selectRelative (.obj r.state) p) ∧
      (∀ rest, p = "$slot" ++ rest → Path.StartsAt "$slot" p →
        r.resolve p = Path.selectRelative (.obj r.slot) ("$" ++ rest)) ∧
      (¬ Path.StartsAt "$" p → ¬ Path.StartsAt "$slot" p → r.resolve p = none) := by
  refine ⟨fun hstarts => ?_, fun rest hp hstarts => ?_, fun hstate hslot => ?_⟩
  · obtain ⟨rest, rfl⟩ := Path.exists_of_startsAt hstarts
    exact resolve_eq_selectRelative r (by decide) rfl hstarts
  · subst hp
    exact resolve_eq_selectRelative r (by decide) rfl hstarts
  · -- the first segment of such a text names neither dictionary
    rcases Path.exists_name p with hname | ⟨name, rest, hname, rfl⟩
    · have hother := named?_of_ne r (fun h => hstate (.inl h)) fun h => hslot (.inl h)
      rw [resolve_name r hname, hother]
      rfl
    · have hstarts : Path.StartsAt name (name ++ "." ++ rest) := .inr ⟨rest.toList, by simp⟩
      have hne : ∀ root, ¬ Path.StartsAt root (name ++ "." ++ rest) → name ≠ root := by
        rintro root hnot rfl
        exact hnot hstarts
      rw [resolve_below r hname, named?_of_ne r (hne "$" hstate) (hne "$slot" hslot)]
      rfl

/-- A state with an empty key, and slot variables. -/
def oddRoots : Roots :=
  ⟨[("", .arr [.bool true]), ("slot", .null)], [("item", .obj [("", .bool false)])]⟩

/-- Empty segments, a point at the end, a bare root, and a text that only looks like a path. -/
theorem oddRoots_readers_agree :
    oddRoots.resolve "$..0" = some (.bool true) ∧
      oddRoots.resolve "$slot.item." = some (.bool false) ∧
      oddRoots.resolve "$slot" = some (.obj oddRoots.slot) ∧
      oddRoots.resolve "$slots.item" = none :=
  ⟨((readers_agree oddRoots "$..0").1 (by decide)).trans (by decide),
    ((readers_agree oddRoots "$slot.item.").2.1 ".item." (by decide) (by decide)).trans (by decide),
    ((readers_agree oddRoots "$slot").2.1 "" (by decide) (by decide)).trans (by decide),
    (readers_agree oddRoots "$slots.item").2.2 (by decide) (by decide)⟩

end Roots

end StepFlow
