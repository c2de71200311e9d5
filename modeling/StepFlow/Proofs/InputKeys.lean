import StepFlow.Proofs.Picking
import StepFlow.Proofs.RoundTrip

/-
  StepFlow.Proofs.InputKeys
  ─────────────────────────
  Which value a key of a step's input has.

  However a binding map came about, each key has one entry (`Built.nodup`).  So the
  entries write different keys, and the input is what the spreads give with the
  written entries put over it (`input_eq_insertAll`).

  `explicit_keys_win`: a key with an entry has the value of that entry, and only an
  optional entry that is absent lets the spreads through.
-/

namespace StepFlow

theorem Binding.write_eq_insert? (b : Binding) (key : String) (found : Option Value)
    (target : State) :
    b.write key found target = Dict.insert? target key (filled b.isOptional found) := by
  cases b <;> cases found <;> rfl

namespace Bindings

/-! ## §1. How binding maps come about -/

/-- A binding map that was read, or made by adding to another one. -/
inductive Built : Bindings → Prop where
  /-- It was read. -/
  | parsed {v : Value} {b : Bindings} (h : read v = .ok b) : Built b
  /-- There is nothing in it yet. -/
  | empty : Built empty
  /-- A required entry was written. -/
  | required {b : Bindings} (h : Built b) (key : String) (expr : Value) :
      Built (b.insert key (.required expr))
  /-- An optional entry was written. -/
  | optional {b : Bindings} (h : Built b) (key : String) (expr : Value) :
      Built (b.insert key (.optional expr))
  /-- A spread was added. -/
  | spread {b : Bindings} (h : Built b) (s : Spread) : Built (b.spread s)

/-- However a binding map came about, no key has two entries. -/
theorem Built.nodup {b : Bindings} (h : b.Built) : (Dict.keys b.entries).Nodup := by
  induction h with
  | parsed h => exact (isNormal_of_read h).nodup
  | empty => exact List.nodup_nil
  | required h key expr ih => exact Dict.nodup_keys_insert ih key _
  | optional h key expr ih => exact Dict.nodup_keys_insert ih key _
  | spread h s ih => exact ih

/-! ## §2. What the entries write -/

/-- Whether an entry is written: its expression leads somewhere, or it is required. -/
def isWritten (r : Roots) (e : String × Binding) : Bool :=
  (r.eval e.2.expr).isSome || !e.2.isOptional

/-- What entries write, in order. -/
def writtenBy (r : Roots) : Dict Binding → State
  | [] => []
  | (key, entry) :: rest =>
      match filled entry.isOptional (r.eval entry.expr) with
      | some v => (key, v) :: writtenBy r rest
      | none => writtenBy r rest

theorem keys_writtenBy (r : Roots) (entries : Dict Binding) :
    Dict.keys (writtenBy r entries) = Dict.keys (entries.filter (isWritten r)) := by
  induction entries with
  | nil => rfl
  | cons e rest ih =>
      obtain ⟨key, entry⟩ := e
      simp only [Dict.keys] at ih
      rw [writtenBy, List.filter_cons, isWritten]
      -- nothing is written only if there is nothing and there need not be
      cases r.eval entry.expr with
      | some v => cases entry <;> simp [filled, Binding.isOptional, Dict.keys, ih]
      | none => cases entry <;> simp [filled, Binding.isOptional, Dict.keys, ih]

theorem nodup_keys_writtenBy {entries : Dict Binding} (h : (Dict.keys entries).Nodup)
    (r : Roots) : (Dict.keys (writtenBy r entries)).Nodup := by
  rw [keys_writtenBy]
  exact h.sublist (List.filter_sublist.map Prod.fst)

theorem get?_writtenBy {entries : Dict Binding} (h : (Dict.keys entries).Nodup) (r : Roots)
    (key : String) :
    Dict.get? (writtenBy r entries) key =
      (Dict.get? entries key).bind fun entry => filled entry.isOptional (r.eval entry.expr) := by
  induction entries with
  | nil => rfl
  | cons e rest ih =>
      obtain ⟨first, entry⟩ := e
      obtain ⟨hfirst, hrest⟩ := List.nodup_cons.mp h
      have hlater := ih hrest
      by_cases hkey : first = key
      · -- no later entry is for this key, so if this one is not written nothing is
        subst hkey
        rw [(Dict.get?_eq_none_iff rest first).mpr hfirst] at hlater
        rw [writtenBy, Dict.get?, if_pos rfl]
        cases hfilled : filled entry.isOptional (r.eval entry.expr) with
        | some v => simp [Dict.get?, hfilled]
        | none => simp [hlater, hfilled]
      · rw [writtenBy, Dict.get?, if_neg hkey, ← hlater]
        cases filled entry.isOptional (r.eval entry.expr) with
        | some v => simp [Dict.get?, hkey]
        | none => rfl

/-- The input is what the spreads give, with what the entries write put over it. -/
theorem input_eq_insertAll (b : Bindings) (r : Roots) :
    b.input r = Dict.insertAll (b.spreadInput r) (writtenBy r b.entries) := by
  unfold input
  generalize b.spreadInput r = target
  induction b.entries generalizing target with
  | nil => rfl
  | cons e rest ih =>
      obtain ⟨key, entry⟩ := e
      rw [List.foldl_cons, ih, Binding.write_eq_insert?, writtenBy]
      cases filled entry.isOptional (r.eval entry.expr) with
      | some v => rfl
      | none => rfl

/-! ## §3. The keys of an input -/

/-- The same spreads without any entries. -/
def withoutEntries (b : Bindings) : Bindings :=
  { b with entries := [] }

theorem input_withoutEntries (b : Bindings) (r : Roots) :
    b.withoutEntries.input r = b.spreadInput r := rfl

/-- What an entry makes of its key. -/
theorem get?_input_of_mem {b : Bindings} (hb : b.Built) (r : Roots) {key : String}
    {entry : Binding} (hentry : (key, entry) ∈ b.entries) :
    Dict.get? (b.input r) key = (filled entry.isOptional (r.eval entry.expr)).or
      (Dict.get? (b.withoutEntries.input r) key) := by
  rw [input_eq_insertAll, Dict.get?_insertAll (nodup_keys_writtenBy hb.nodup r),
    get?_writtenBy hb.nodup, Dict.get?_of_mem hb.nodup hentry]
  rfl

theorem get?_input_of_not_mem {b : Bindings} (hb : b.Built) (r : Roots) {key : String}
    (hkey : key ∉ Dict.keys b.entries) :
    Dict.get? (b.input r) key = Dict.get? (b.withoutEntries.input r) key := by
  rw [input_eq_insertAll, Dict.get?_insertAll (nodup_keys_writtenBy hb.nodup r),
    get?_writtenBy hb.nodup, (Dict.get?_eq_none_iff _ key).mpr hkey]
  rfl

/-- **Explicit keys win over spreads.**  In the input that a binding map gives, a key whose entry
leads somewhere has what it leads to, and a key whose required entry leads nowhere has null.  Every
other key is as the spreads alone leave it, present or not.  The keys that the spreads give come
first, and the other written ones after them in the order of their entries. -/
theorem explicit_keys_win {b : Bindings} (hb : b.Built) (r : Roots) :
    (∀ key entry, (key, entry) ∈ b.entries → ∀ v, r.eval entry.expr = some v →
        Dict.get? (b.input r) key = some v) ∧
      (∀ key expr, (key, .required expr) ∈ b.entries → r.eval expr = none →
        Dict.get? (b.input r) key = some .null) ∧
      (∀ key, (key ∉ Dict.keys b.entries ∨
          ∃ expr, (key, .optional expr) ∈ b.entries ∧ r.eval expr = none) →
        Dict.get? (b.input r) key = Dict.get? (b.withoutEntries.input r) key) ∧
      Dict.keys (b.input r) = Dict.keys (b.withoutEntries.input r) ++
        (Dict.keys (b.entries.filter (isWritten r))).filter
          fun key => decide (key ∉ Dict.keys (b.withoutEntries.input r)) := by
  refine ⟨fun key entry hentry v hv => ?_, fun key expr hentry hnone => ?_,
    fun key hkey => ?_, ?_⟩
  · rw [get?_input_of_mem hb r hentry, hv]
    cases entry <;> rfl
  · rw [get?_input_of_mem hb r hentry]
    show (filled false (r.eval expr)).or _ = _
    rw [hnone]
    rfl
  · rcases hkey with hkey | ⟨expr, hentry, hnone⟩
    · exact get?_input_of_not_mem hb r hkey
    · rw [get?_input_of_mem hb r hentry]
      show (filled true (r.eval expr)).or _ = _
      rw [hnone]
      rfl
  · rw [input_eq_insertAll, Dict.keys_insertAll (nodup_keys_writtenBy hb.nodup r), keys_writtenBy,
      input_withoutEntries]

/-- A spread, and over it an entry that leads nowhere, one that does, and one that was optional
at first. -/
def layered : Bindings :=
  (((((empty.spread ⟨.str "$.point", none, false⟩).insert "x" (.optional (.str "$.none"))).insert
    "y" (.optional (.str "$.none"))).insert "z" (.optional (.str "$.none"))).insert
    "y" (.required (.str "$.none"))).insert "w" (.required (.bool true))

/-- A state for it to read. -/
def layeredRoots : Roots :=
  ⟨[("point", .obj [("y", .bool true), ("x", .bool false)])], []⟩

theorem layered_keys :
    Dict.get? (layered.input layeredRoots) "x" = some (.bool false) ∧
      Dict.get? (layered.input layeredRoots) "y" = some .null ∧
      Dict.get? (layered.input layeredRoots) "z" = none ∧
      Dict.keys (layered.input layeredRoots) = ["y", "x", "w"] := by
  have hbuilt : layered.Built :=
    ((((Built.empty.spread _).optional "x" _).optional "y" _).optional "z" _).required "y" _
      |>.required "w" _
  obtain ⟨-, hnull, hspread, hkeys⟩ := explicit_keys_win hbuilt layeredRoots
  refine ⟨?_, ?_, ?_, ?_⟩
  · exact (hspread "x" (.inr ⟨.str "$.none", by decide, by decide⟩)).trans (by decide)
  · exact hnull "y" (.str "$.none") (by decide) (by decide)
  · exact (hspread "z" (.inr ⟨.str "$.none", by decide, by decide⟩)).trans (by decide)
  · exact hkeys.trans (by decide)

end Bindings

end StepFlow
