import StepFlow.Builtin
import StepFlow.Proofs.Evolution

/-
  StepFlow.Proofs.StateGrowth
  ───────────────────────────
  How the state of a sequence changes.

  A step merges its result into the state by its output bindings.  Every way of
  merging writes single keys, and writing a key keeps all others with their
  places and values.  `runWithin_growsBy`: from the start to the end of a sequence
  no key is lost or moved, and a key that none of the sequence's own steps binds
  keeps its value, whatever ran in nested sequences.
-/

namespace StepFlow

/-! ## §1. Dictionaries that only grow -/

namespace Dict

variable {α : Type} {written : String → Prop} {d e f : Dict α}

/-- `e` has the keys of `d` in their places and perhaps more after them, and differs from `d`
in written keys only. -/
structure GrowsBy (written : String → Prop) (d e : Dict α) : Prop where
  /-- No key is lost or moved. -/
  keys : keys d <+: keys e
  /-- What is not written is unchanged, present or not. -/
  get? : ∀ key, ¬ written key → get? e key = get? d key

theorem GrowsBy.refl (d : Dict α) : GrowsBy written d d :=
  ⟨List.prefix_refl _, fun _ _ => rfl⟩

theorem GrowsBy.trans (h : GrowsBy written d e) (h' : GrowsBy written e f) :
    GrowsBy written d f :=
  ⟨h.keys.trans h'.keys, fun key hkey => (h'.get? key hkey).trans (h.get? key hkey)⟩

theorem GrowsBy.mono {more : String → Prop} (h : GrowsBy written d e)
    (hmore : ∀ key, written key → more key) : GrowsBy more d e :=
  ⟨h.keys, fun key hkey => h.get? key fun hw => hkey (hmore key hw)⟩

theorem GrowsBy.insert (d : Dict α) {key : String} (value : α) (hkey : written key) :
    GrowsBy written d (insert d key value) := by
  refine ⟨?_, fun other hother => ?_⟩
  · rw [keys_insert]
    split
    · exact List.prefix_refl _
    · exact List.prefix_append _ _
  · have hne : key ≠ other := by
      rintro rfl
      exact hother hkey
    exact get?_insert_of_ne d value hne

end Dict

/-! ## §2. What output bindings write -/

/-- Whether a spread may write a key: it copies everything, or picks that key. -/
def Spread.mayWrite (s : Spread) (key : String) : Bool :=
  match s.pick with
  | none => true
  | some keys => keys.contains key

/-- Whether output bindings may write a key, by an entry or by a spread. -/
def Bindings.mayWrite (b : Bindings) (key : String) : Bool :=
  Dict.contains b.entries key || b.spreads.any fun s => s.mayWrite key

section Merging

variable {written : String → Prop} {kept : State → Prop}
  (hwrite : ∀ state key value, written key → kept state → kept (Dict.insert state key value))

include hwrite

theorem Spread.pickInto_keeps (optional : Bool) :
    ∀ (keys : List String), (∀ key ∈ keys, written key) → ∀ {payload target : State},
      kept target → kept (pickInto optional keys payload target) := by
  intro keys
  induction keys with
  | nil => exact fun _ _ _ h => h
  | cons key rest ih =>
      intro hkeys payload target h
      have hrest : ∀ {payload target : State}, kept target →
          kept (pickInto optional rest payload target) :=
        ih fun other hother => hkeys other (List.mem_cons_of_mem key hother)
      have hwritten : ∀ v, kept (Dict.insert target key v) :=
        fun v => hwrite target key v (hkeys key List.mem_cons_self) h
      unfold pickInto
      split
      · exact hrest (hwritten _)
      · -- a missing key is written as null, or not at all
        split
        · exact hrest h
        · exact hrest (hwritten _)

theorem Spread.merge_keeps (s : Spread) (hs : ∀ key, s.mayWrite key = true → written key)
    (payload : Option Value) {target : State} (h : kept target) :
    kept (s.merge payload target) := by
  unfold merge
  split
  · unfold mergeInto
    split
    · next keys hpick =>
        refine pickInto_keeps hwrite s.optional keys (fun key hkey => hs key ?_) h
        simp [mayWrite, hpick, hkey]
    · next hpick =>
        refine List.foldlRecOn (motive := kept) _ _ h fun d hd entry _ => ?_
        exact hwrite d entry.1 entry.2 (hs entry.1 (by simp [mayWrite, hpick])) hd
  · exact h

theorem Binding.write_keeps (b : Binding) {key : String} (hkey : written key)
    (found : Option Value) {target : State} (h : kept target) :
    kept (b.write key found target) := by
  unfold write
  split
  · exact hwrite target key _ hkey h
  · split
    · exact h
    · exact hwrite target key _ hkey h

/-- What writing the keys that the bindings name keeps, merging a result keeps. -/
theorem Bindings.output_keeps (b : Bindings) (hb : ∀ key, b.mayWrite key = true → written key)
    (result : Value) {state : State} (h : kept state) : kept (b.output result state) := by
  have hspreads : kept (b.spreadOutput result state) := by
    unfold spreadOutput
    split
    · refine List.foldlRecOn (motive := kept) _ _ h fun d hd s hs => ?_
      refine s.merge_keeps hwrite (fun key hkey => hb key ?_) _ hd
      simp only [mayWrite, Bool.or_eq_true, List.any_eq_true]
      exact .inr ⟨s, hs, hkey⟩
    · exact h
  refine List.foldlRecOn (motive := kept) _ _ hspreads fun d hd entry hentry => ?_
  refine entry.2.write_keeps hwrite (hb entry.1 ?_) _ hd
  have hkey : Dict.contains b.entries entry.1 = true :=
    (Dict.contains_iff _ _).mpr (List.mem_map_of_mem hentry)
  simp [mayWrite, hkey]

end Merging

/-- Merging a result changes what the bindings name. -/
theorem Bindings.output_growsBy (b : Bindings) (result : Value) (state : State) :
    Dict.GrowsBy (fun key => b.mayWrite key = true) state (b.output result state) :=
  b.output_keeps (fun target _ value hkey h => h.trans (.insert target value hkey))
    (fun _ h => h) result (.refl state)

/-! ## §3. Sequences -/

namespace Engine

variable {caller : Caller}

/-- What merging the result of each step keeps, the whole sequence keeps.  On the steps: each
one starts from the state that the one before it left. -/
theorem runStepsFrom_keeps (hcaller : ∀ id input site, Run.Evolving (caller id input site))
    {kept : State → Prop} (vars : State) (steps : List Step)
    (hmerge : ∀ step ∈ steps, ∀ v state, kept state → kept (step.outputs.output v state)) :
    ∀ {index : Nat} {state last : State} {c d : Context},
      runStepsFrom caller vars index steps state c = some (.ok last, d) → kept state →
      kept last := by
  induction steps with
  | nil =>
      intro index state last c d h hstate
      obtain ⟨hlast, -⟩ := Run.pure_eq_some.mp h
      cases hlast
      exact hstate
  | cons step rest ih =>
      intro index state last c d h hstate
      obtain ⟨result, e, hstep, hrest⟩ := Run.bind_eq_some.mp h
      cases result with
      | error i =>
          obtain ⟨hi, -⟩ := Run.pure_eq_some.mp hrest
          cases hi
      | ok next =>
          have hnext : kept next := by
            rw [runStep_eq_keepStep hcaller] at hstep
            obtain ⟨result, f, -, hresult⟩ := Run.bind_eq_some.mp hstep
            obtain ⟨g, hmerged, -⟩ := exists_mergeStep step state result f
            have hsame := hmerged.symm.trans hresult
            cases result with
            | error i => cases hsame
            | ok v =>
                cases hsame
                exact hmerge step List.mem_cons_self v state hstate
          have hothers := fun other hother => hmerge other (List.mem_cons_of_mem step hother)
          exact ih hothers hrest hnext

theorem runStepsFrom_growsBy (hcaller : ∀ id input site, Run.Evolving (caller id input site))
    (vars : State) (steps : List Step) {index : Nat} {state last : State} {c d : Context}
    (h : runStepsFrom caller vars index steps state c = some (.ok last, d)) :
    Dict.GrowsBy (fun key => ∃ step ∈ steps, step.outputs.mayWrite key = true) state last := by
  refine runStepsFrom_keeps hcaller vars steps (fun step hstep v next hnext => ?_) h (.refl state)
  refine hnext.trans ((step.outputs.output_growsBy v next).mono fun key hkey => ?_)
  exact ⟨step, hstep, hkey⟩

/-- **A state only grows.**  A sequence over any registry that ends with a state has kept
every key of the state it started from, in its place.  A key that no output binding of the
sequence's own steps may write is there at the end exactly if it was at the start, with the
same value. -/
theorem runWithin_growsBy {registry : Registry} {limit : Nat} {steps : List Step}
    {first last vars : State} {c d : Context}
    (h : runWithin registry limit steps first vars c = some (.ok last, d)) :
    Dict.keys first <+: Dict.keys last ∧
      ∀ key, (∀ step ∈ steps, step.outputs.mayWrite key = false) →
        Dict.get? last key = Dict.get? first key := by
  have hgrows := runStepsFrom_growsBy (callWithin_evolves registry limit) vars steps h
  refine ⟨hgrows.keys, fun key hkey => hgrows.get? key ?_⟩
  rintro ⟨step, hstep, hwrite⟩
  rw [hkey step hstep] at hwrite
  cases hwrite

/-- A loop over items whose body writes to `x`, and which itself writes to `all` and picks
`results`. -/
def collectStep : Step :=
  ⟨Flow.foreachId, ⟨[], [("list", .required (.arr [.null, .bool true]))]⟩,
    ⟨[⟨.str "$", some ["results"], false⟩], [("all", .required (.str "results"))]⟩, [],
    some [⟨Builtin.setId, ⟨[], [("x", .required (.bool false))]⟩,
      ⟨[⟨.str "$", none, false⟩], []⟩, [], none, none⟩], none⟩

/-- The body of the loop writes to `x` in its own copies of the state only. -/
theorem collectStep_growsBy :
    ∃ last d, runWithin .standard 2 [collectStep] [("x", .null), ("all", .null)] []
        (Context.start .fatal false none) = some (.ok last, d) ∧
      ["x", "all"] <+: Dict.keys last ∧ Dict.get? last "x" = some .null := by
  have hends : ∃ last d, runWithin .standard 2 [collectStep] [("x", .null), ("all", .null)] []
      (Context.start .fatal false none) = some (.ok last, d) :=
    ⟨_, _, rfl⟩
  obtain ⟨last, d, hrun⟩ := hends
  obtain ⟨hkeys, hget⟩ := runWithin_growsBy hrun
  exact ⟨last, d, hrun, hkeys, hget "x" (by decide)⟩

end Engine

end StepFlow
