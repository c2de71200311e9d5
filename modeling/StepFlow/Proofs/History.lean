import Mathlib.Data.List.Induction
import StepFlow.Registry

/-
  StepFlow.Proofs.History
  ───────────────────────
  What a registry answers, told from its history.

  A registry comes about by changes: functions are registered and taken out, and
  what contracts are bound to is replaced as a whole.  Under an id there is what the
  last change about that id left there (`get?_after`), and a contract is bound to
  what the last table says (`binding?_after`).  Both go by induction on the history,
  newest change last, with one lemma on what a change leaves.

  `resolution_follows_history`: an id is answered by the function under it, else, if
  it is the id of a contract, by the function under what it is bound to, and there
  the search ends: whether that target is a contract, or is bound itself, does not
  matter.
-/

universe u

namespace StepFlow

/-! ## §1. The last member of a list with a property -/

section Last

variable {α : Type u}

/-- `x` has the property, and no later member of the list has it. -/
def IsLast (p : α → Prop) (x : α) (xs : List α) : Prop :=
  p x ∧ ∃ earlier later, xs = earlier ++ x :: later ∧ ∀ y ∈ later, ¬ p y

variable {p : α → Prop} {x y : α} {xs : List α}

theorem not_isLast_nil : ¬ IsLast p x [] := by
  rintro ⟨-, earlier, later, hxs, -⟩
  cases earlier <;> cases hxs

/-- A member of a list that got a new one at its end is the new one, or it was there before and
the new one is among those that come after it. -/
theorem concat_eq_append_cons {earlier later : List α} (h : xs ++ [y] = earlier ++ x :: later) :
    (x = y ∧ later = []) ∨ ∃ rest, later = rest ++ [y] ∧ xs = earlier ++ x :: rest := by
  rcases List.eq_nil_or_concat later with rfl | ⟨rest, last, rfl⟩
  · exact .inl ⟨(List.singleton_inj.mp (List.append_inj' h rfl).2).symm, rfl⟩
  · rw [List.concat_eq_append, ← List.cons_append, ← List.append_assoc] at h
    obtain ⟨hxs, hlast⟩ := List.append_inj' h rfl
    rw [List.concat_eq_append, hlast]
    exact .inr ⟨rest, rfl, hxs⟩

/-- A new member with the property is the last one. -/
theorem isLast_concat_self (hy : p y) : IsLast p x (xs ++ [y]) ↔ x = y := by
  constructor
  · rintro ⟨-, earlier, later, hxs, hlater⟩
    rcases concat_eq_append_cons hxs with ⟨hx, -⟩ | ⟨rest, rfl, -⟩
    · exact hx
    · exact absurd hy (hlater y List.mem_concat_self)
  · rintro rfl
    exact ⟨hy, xs, [], rfl, fun _ hz => absurd hz List.not_mem_nil⟩

/-- A new member without the property changes nothing. -/
theorem isLast_concat_of_not (hy : ¬ p y) : IsLast p x (xs ++ [y]) ↔ IsLast p x xs := by
  constructor
  · rintro ⟨hx, earlier, later, hxs, hlater⟩
    rcases concat_eq_append_cons hxs with ⟨rfl, -⟩ | ⟨rest, rfl, hfront⟩
    · exact absurd hx hy
    · exact ⟨hx, earlier, rest, hfront, fun z hz => hlater z (List.mem_append_left _ hz)⟩
  · rintro ⟨hx, earlier, later, rfl, hlater⟩
    refine ⟨hx, earlier, later ++ [y], List.append_assoc _ _ _, fun z hz => ?_⟩
    rcases List.mem_append.mp hz with hold | hnew
    · exact hlater z hold
    · rw [List.mem_singleton.mp hnew]
      exact hy

end Last

/-- Of the entries with one key the last one counts. -/
theorem Dict.get?_ofEntries_iff {α : Type u} {entries : List (String × α)} {key : String}
    {value : α} :
    get? (ofEntries entries) key = some value ↔ IsLast (·.1 = key) (key, value) entries := by
  induction entries using List.reverseRecOn with
  | nil => exact iff_of_false (fun h => nomatch h) not_isLast_nil
  | append_singleton entries entry ih =>
      obtain ⟨k, v⟩ := entry
      have hwrite : ofEntries (entries ++ [(k, v)]) = insert (ofEntries entries) k v :=
        List.foldl_append
      rw [hwrite]
      by_cases hk : k = key
      · subst hk
        have hlast : IsLast (·.1 = k) (k, value) (entries ++ [(k, v)]) ↔ (k, value) = (k, v) :=
          isLast_concat_self rfl
        rw [get?_insert_self, hlast, Option.some_inj, Prod.mk.injEq, and_iff_right rfl, eq_comm]
      · have hlast : IsLast (·.1 = key) (key, value) (entries ++ [(k, v)]) ↔
            IsLast (·.1 = key) (key, value) entries := isLast_concat_of_not hk
        rw [get?_insert_of_ne _ _ hk, ih, hlast]

/-! ## §2. Changes to a registry -/

/-- A change to a registry. -/
inductive Change where
  /-- A function is registered. -/
  | register (id : String) (function : Function)
  /-- A function that declares its outputs is registered. -/
  | registerWithOutputs (id : String) (outputs : List String) (function : Function)
  /-- A function is taken out. -/
  | unregister (id : String)
  /-- What contracts are bound to is replaced. -/
  | setBindings (bindings : List (String × String))

namespace Change

/-- A change registers a function under `id`, with the outputs that it declares. -/
inductive Registers (id : String) : List String → Function → Change → Prop where
  | plain (function : Function) : Registers id [] function (register id function)
  | declared (outputs : List String) (function : Function) :
      Registers id outputs function (registerWithOutputs id outputs function)

/-- A change is about the function under `id`: it registers one there or takes it out. -/
def IsAbout (id : String) (change : Change) : Prop :=
  (∃ outputs function, change.Registers id outputs function) ∨ change = unregister id

/-- A change replaces what contracts are bound to. -/
def IsTable (change : Change) : Prop :=
  ∃ bindings, change = setBindings bindings

end Change

/-- The function under `id`: the last change about the id registered it. -/
def IsLive (history : List Change) (id : String) (outputs : List String) (function : Function) :
    Prop :=
  ∃ change, IsLast (Change.IsAbout id) change history ∧
    Change.Registers id outputs function change

/-- There is a function under `id`. -/
def IsRegistered (history : List Change) (id : String) : Prop :=
  ∃ outputs function, IsLive history id outputs function

/-- What a contract is bound to: the last table says so, and of several entries for the contract
in it the last one. -/
def IsBound (history : List Change) (contract target : String) : Prop :=
  ∃ bindings, IsLast Change.IsTable (Change.setBindings bindings) history ∧
    IsLast (·.1 = contract) (contract, target) bindings

namespace Registry

/-- Make a change. -/
def apply (r : Registry) : Change → Registry
  | .register id function => r.register id function
  | .registerWithOutputs id outputs function => r.registerWithOutputs id outputs function
  | .unregister id => r.unregister id
  | .setBindings bindings => r.setBindings bindings

/-- The registry that changes lead to, one after the other, from an empty one. -/
def after (history : List Change) : Registry :=
  history.foldl apply empty

theorem after_concat (history : List Change) (change : Change) :
    after (history ++ [change]) = (after history).apply change :=
  List.foldl_append

/-! ## §3. What is registered -/

/-- No change registers an id twice. -/
theorem nodup_keys_apply {r : Registry} (h : (Dict.keys r.functions).Nodup) (change : Change) :
    (Dict.keys (r.apply change).functions).Nodup := by
  cases change with
  | register id function => exact Dict.nodup_keys_insert h id _
  | registerWithOutputs id outputs function => exact Dict.nodup_keys_insert h id _
  | unregister id =>
      show (Dict.keys (Dict.erase r.functions id)).Nodup
      rw [Dict.keys_erase]
      exact h.erase id
  | setBindings bindings => exact h

theorem nodup_keys_after (history : List Change) :
    (Dict.keys (after history).functions).Nodup := by
  induction history using List.reverseRecOn with
  | nil => exact List.nodup_nil
  | append_singleton history change ih =>
      rw [after_concat]
      exact nodup_keys_apply ih change

theorem get?_apply_of_registers (r : Registry) {change : Change} {id : String}
    {outputs : List String} {function : Function} (h : change.Registers id outputs function) :
    (r.apply change).get? id = some ⟨id, outputs, function⟩ := by
  cases h with
  | plain => exact Dict.get?_insert_self _ _ _
  | declared => exact Dict.get?_insert_self _ _ _

/-- What a change leaves under an id that it is about. -/
theorem get?_apply_of_isAbout {r : Registry} (hnodup : (Dict.keys r.functions).Nodup)
    {change : Change} {id : String} (h : change.IsAbout id) {entry : Entry} :
    (r.apply change).get? id = some entry ↔
      entry.id = id ∧ change.Registers id entry.outputs entry.function := by
  constructor
  · intro hget
    rcases h with ⟨outputs, function, hregisters⟩ | rfl
    · rw [get?_apply_of_registers r hregisters] at hget
      cases hget
      exact ⟨rfl, hregisters⟩
    · have hgone : (r.apply (.unregister id)).get? id = none := Dict.get?_erase_self hnodup id
      rw [hgone] at hget
      cases hget
  · rintro ⟨rfl, hregisters⟩
    exact get?_apply_of_registers r hregisters

/-- Under any other id it leaves what was there. -/
theorem get?_apply_of_not_isAbout (r : Registry) {change : Change} {id : String}
    (h : ¬ change.IsAbout id) : (r.apply change).get? id = r.get? id := by
  cases change with
  | register key function =>
      refine Dict.get?_insert_of_ne _ _ ?_
      rintro rfl
      exact h (.inl ⟨[], function, .plain function⟩)
  | registerWithOutputs key outputs function =>
      refine Dict.get?_insert_of_ne _ _ ?_
      rintro rfl
      exact h (.inl ⟨outputs, function, .declared outputs function⟩)
  | unregister key =>
      refine Dict.get?_erase_of_ne _ ?_
      rintro rfl
      exact h (.inr rfl)
  | setBindings bindings => rfl

/-- Under an id there is what the last change about it left there. -/
theorem get?_after {history : List Change} {id : String} {entry : Entry} :
    (after history).get? id = some entry ↔
      entry.id = id ∧ IsLive history id entry.outputs entry.function := by
  induction history using List.reverseRecOn with
  | nil =>
      refine iff_of_false (fun h => nomatch h) ?_
      rintro ⟨-, change, hlast, -⟩
      exact not_isLast_nil hlast
  | append_singleton history change ih =>
      rw [after_concat]
      unfold IsLive at ih ⊢
      -- a change about the id settles it alone, any other leaves it to the history before
      by_cases h : change.IsAbout id
      · rw [get?_apply_of_isAbout (nodup_keys_after history) h]
        simp only [isLast_concat_self h, exists_eq_left]
      · rw [get?_apply_of_not_isAbout _ h, ih]
        simp only [isLast_concat_of_not h]

/-! ## §4. What contracts are bound to -/

theorem binding?_apply_of_not_isTable (r : Registry) {change : Change} (h : ¬ change.IsTable)
    (contract : String) : (r.apply change).binding? contract = r.binding? contract := by
  cases change with
  | setBindings bindings => exact absurd ⟨bindings, rfl⟩ h
  | register | registerWithOutputs | unregister => rfl

/-- A contract is bound to what the last table says. -/
theorem binding?_after {history : List Change} {contract target : String} :
    (after history).binding? contract = some target ↔ IsBound history contract target := by
  induction history using List.reverseRecOn with
  | nil =>
      refine iff_of_false (fun h => nomatch h) ?_
      rintro ⟨bindings, hlast, -⟩
      exact not_isLast_nil hlast
  | append_singleton history change ih =>
      rw [after_concat]
      unfold IsBound at ih ⊢
      by_cases h : change.IsTable
      · simp only [isLast_concat_self h]
        obtain ⟨bindings, rfl⟩ := h
        simp only [Change.setBindings.injEq, exists_eq_left]
        show Dict.get? (Dict.ofEntries bindings) contract = some target ↔ _
        exact Dict.get?_ofEntries_iff
      · rw [binding?_apply_of_not_isTable _ h, ih]
        simp only [isLast_concat_of_not h]

/-! ## §5. The list of ids -/

theorem mem_list_iff (r : Registry) (id : String) : id ∈ r.list ↔ id ∈ Dict.keys r.functions :=
  (List.mergeSort_perm _ _).mem_iff

/-- The listed ids are in increasing order, and none is listed twice. -/
theorem pairwise_list {r : Registry} (hnodup : (Dict.keys r.functions).Nodup) :
    r.list.Pairwise (· < ·) := by
  have htrans : ∀ a b c : String, decide (a ≤ b) = true → decide (b ≤ c) = true →
      decide (a ≤ c) = true := fun a b c hab hbc =>
    decide_eq_true (String.le_trans (of_decide_eq_true hab) (of_decide_eq_true hbc))
  have htotal : ∀ a b : String, (decide (a ≤ b) || decide (b ≤ a)) = true := by
    intro a b
    simpa only [Bool.or_eq_true, decide_eq_true_eq] using String.le_total a b
  have hsorted : r.list.Pairwise fun a b => decide (a ≤ b) = true :=
    List.pairwise_mergeSort htrans htotal _
  have hdistinct : r.list.Nodup := (List.mergeSort_perm _ _).nodup_iff.mpr hnodup
  refine hsorted.imp₂ (fun a b hle hne => ?_) hdistinct
  refine String.not_le.mp fun hge => ?_
  exact hne (String.le_antisymm (of_decide_eq_true hle) hge)

end Registry

/-! ## §6. What an id is answered by -/

theorem isContract_iff (id : String) :
    isContract id = true ↔ ∃ name, id = "lcod://contract/" ++ name := by
  rw [isContract, List.isPrefixOf_iff_prefix]
  constructor
  · rintro ⟨rest, hrest⟩
    have hname : (String.ofList rest).toList = rest := String.toList_ofList
    refine ⟨String.ofList rest, String.toList_inj.mp ?_⟩
    rw [String.toList_append, hname]
    exact hrest.symm
  · rintro ⟨name, rfl⟩
    exact ⟨name.toList, String.toList_append.symm⟩

/-- What an id is answered by after a history. -/
inductive Answers (history : List Change) (id : String) : Except Fault Resolution → Prop where
  /-- There is a function under the id. -/
  | direct {outputs : List String} {function : Function}
      (live : IsLive history id outputs function) :
      Answers history id (.ok ⟨⟨id, outputs, function⟩, none⟩)
  /-- There is none, but the id is that of a contract, and there is one under what the contract
  is bound to. -/
  | bound {target : String} {outputs : List String} {function : Function}
      (absent : ¬ IsRegistered history id)
      (contract : ∃ name, id = "lcod://contract/" ++ name)
      (binding : IsBound history id target) (live : IsLive history target outputs function) :
      Answers history id (.ok ⟨⟨target, outputs, function⟩, some id⟩)
  /-- Neither. -/
  | missing (absent : ¬ IsRegistered history id)
      (unbound : (∃ name, id = "lcod://contract/" ++ name) → ∀ target, IsBound history id target →
        ¬ IsRegistered history target) :
      Answers history id (.error (.functionNotRegistered id))

namespace Registry

variable {history : List Change} {id : String}

theorem get?_after_of_isLive {outputs : List String} {function : Function}
    (h : IsLive history id outputs function) :
    (after history).get? id = some ⟨id, outputs, function⟩ :=
  get?_after.mpr ⟨rfl, h⟩

theorem get?_after_eq_none_iff :
    (after history).get? id = none ↔ ¬ IsRegistered history id := by
  constructor
  · rintro hnone ⟨outputs, function, hlive⟩
    rw [get?_after_of_isLive hlive] at hnone
    cases hnone
  · intro habsent
    cases hget : (after history).get? id with
    | none => rfl
    | some entry => exact absurd ⟨_, _, (get?_after.mp hget).2⟩ habsent

/-- An answer is what the id resolves to. -/
theorem resolve_of_answers {answer : Except Fault Resolution} (h : Answers history id answer) :
    (after history).resolve id = answer := by
  unfold resolve
  cases h with
  | direct live => rw [get?_after_of_isLive live]
  | bound absent contract binding live =>
      rw [get?_after_eq_none_iff.mpr absent, binding?_after.mpr binding, Option.bind_some,
        get?_after_of_isLive live]
      simp only [(isContract_iff id).mpr contract, if_true]
  | missing absent unbound =>
      rw [get?_after_eq_none_iff.mpr absent]
      by_cases hcontract : isContract id = true
      · have hnone : ((after history).binding? id).bind (after history).get? = none := by
          rw [Option.bind_eq_none_iff]
          intro target htarget
          exact get?_after_eq_none_iff.mpr
            (unbound ((isContract_iff id).mp hcontract) target (binding?_after.mp htarget))
        simp only [hcontract, if_true, hnone]
      · simp only [hcontract]
        rfl

/-- An id has an answer after every history. -/
theorem exists_answers (history : List Change) (id : String) :
    ∃ answer, Answers history id answer := by
  by_cases hlive : IsRegistered history id
  · obtain ⟨outputs, function, hlive⟩ := hlive
    exact ⟨_, .direct hlive⟩
  · by_cases hbound : (∃ name, id = "lcod://contract/" ++ name) ∧
        ∃ target, IsBound history id target ∧ IsRegistered history target
    · obtain ⟨hcontract, target, hbinding, outputs, function, htarget⟩ := hbound
      exact ⟨_, .bound hlive hcontract hbinding htarget⟩
    · exact ⟨_, .missing hlive fun hcontract target hbinding htarget =>
        hbound ⟨hcontract, target, hbinding, htarget⟩⟩

/-- **Resolution follows the history.**  After any changes to an empty registry, an id resolves to
the function that its last change registered, if that did not take it out.  Otherwise the id of a
contract resolves to the function under what the last table binds it to, one that is registered
there itself, whatever that id is bound to in turn.  Every other id resolves to the fault that
names it.  What is found bears the id that it was registered under, and the list has the ids with a
function, each once and in increasing order. -/
theorem resolution_follows_history (history : List Change) :
    (∀ id answer, (after history).resolve id = answer ↔ Answers history id answer) ∧
      (∀ id found, (after history).resolve id = .ok found →
        IsLive history found.entry.id found.entry.outputs found.entry.function) ∧
      (after history).list.Pairwise (· < ·) ∧
      ∀ id, id ∈ (after history).list ↔ IsRegistered history id := by
  have hanswers : ∀ id, Answers history id ((after history).resolve id) := by
    intro id
    obtain ⟨answer, hanswer⟩ := exists_answers history id
    rw [resolve_of_answers hanswer]
    exact hanswer
  refine ⟨fun id answer => ⟨?_, resolve_of_answers⟩, fun id found hfound => ?_,
    pairwise_list (nodup_keys_after history), fun id => ?_⟩
  · rintro rfl
    exact hanswers id
  · have hanswer := hanswers id
    rw [hfound] at hanswer
    cases hanswer with
    | direct live => exact live
    | bound absent contract binding live => exact live
  · rw [mem_list_iff, ← not_iff_not, ← Dict.get?_eq_none_iff]
    exact get?_after_eq_none_iff

/-- A contract whose own function was taken out falls back on what it is bound to, but a contract
that is bound to it has no function. -/
example (f g : Function) :
    let r := after [.register "impl" f, .register "lcod://contract/a" g,
      .setBindings [("lcod://contract/a", "impl"), ("lcod://contract/b", "lcod://contract/a")],
      .unregister "lcod://contract/a"]
    r.resolve "lcod://contract/a" = .ok ⟨⟨"impl", [], f⟩, some "lcod://contract/a"⟩ ∧
      r.resolve "lcod://contract/b" = .error (.functionNotRegistered "lcod://contract/b") :=
  ⟨rfl, rfl⟩

end Registry

end StepFlow
