import Mathlib.Data.List.Forall2
import StepFlow.Document.Text

/-
  StepFlow.Proofs.Grammar
  ───────────────────────
  Which values are documents, and what they say.

  The grammar is given without the readers: `IsDocument` and, mutually recursive,
  `IsStep`, `IsSlotTable` and `IsSequence` say which values are well formed, and
  `DocumentIs`, `StepIs`, `SequenceIs` what a well-formed value stands for.  Both
  see a step through its fields, which are the members of an object or the items
  of a list under the names of the fields (`fieldsOf`).

  `Reads x accepted means`: a reader accepts exactly what the grammar does, and
  makes of it what the grammar says.  Each reader has one lemma of this form, along
  its own recursion.  A value stands for one thing at most (`StepIs.unique`,
  `DocumentIs.unique`), so the grammar alone tells what is read.

  `Document.load_grammar`: a value is taken for a document exactly if it is one,
  and for the document that it stands for.
-/

namespace StepFlow

/-! ## §1. Readers -/

/-- A reader that accepts exactly what the condition says, and makes of it what `means` says. -/
structure Reads {ε α : Type} (x : Except ε α) (accepted : Prop) (means : α → Prop) : Prop where
  sound : ∀ a, x = .ok a → accepted ∧ means a
  complete : accepted → ∃ a, x = .ok a

namespace Reads

variable {ε α β : Type} {x : Except ε α} {accepted other : Prop} {means : α → Prop}

theorem ok {a : α} (haccepted : accepted) (hmeans : means a) :
    Reads (.ok a : Except ε α) accepted means := by
  refine ⟨fun b h => ?_, fun _ => ⟨a, rfl⟩⟩
  cases h
  exact ⟨haccepted, hmeans⟩

theorem error {e : ε} (haccepted : ¬ accepted) :
    Reads (.error e : Except ε α) accepted means :=
  ⟨nofun, fun h => (haccepted h).elim⟩

theorem congr (h : Reads x accepted means) (hiff : accepted ↔ other) {same : α → Prop}
    (hmeans : ∀ a, accepted → means a → same a) : Reads x other same := by
  refine ⟨fun a ha => ?_, fun hother => h.complete (hiff.mpr hother)⟩
  obtain ⟨haccepted, hmean⟩ := h.sound a ha
  exact ⟨hiff.mp haccepted, hmeans a haccepted hmean⟩

/-- One reader after another. -/
theorem bind {f : α → Except ε β} {R : β → Prop} (h : Reads x accepted means)
    (hf : ∀ a, accepted → means a → Reads (f a) other R) :
    Reads (x.bind f) (accepted ∧ other) R := by
  cases x with
  | error e =>
      refine .error fun haccepted => ?_
      obtain ⟨a, ha⟩ := h.complete haccepted.1
      cases ha
  | ok a =>
      obtain ⟨haccepted, hmean⟩ := h.sound a rfl
      exact (hf a haccepted hmean).congr (by simp [haccepted]) fun _ _ hb => hb

theorem map {f : α → β} {R : β → Prop} (h : Reads x accepted means)
    (hf : ∀ a, accepted → means a → R (f a)) : Reads (x.map f) accepted R := by
  cases x with
  | error e =>
      refine .error fun haccepted => ?_
      obtain ⟨a, ha⟩ := h.complete haccepted
      cases ha
  | ok a =>
      obtain ⟨haccepted, hmean⟩ := h.sound a rfl
      exact .ok haccepted (hf a haccepted hmean)

theorem mapError {φ : Type} {f : ε → φ} (h : Reads x accepted means) :
    Reads (x.mapError f) accepted means := by
  cases x with
  | error e =>
      refine .error fun haccepted => ?_
      obtain ⟨a, ha⟩ := h.complete haccepted
      cases ha
  | ok a =>
      obtain ⟨haccepted, hmean⟩ := h.sound a rfl
      exact .ok haccepted hmean

end Reads

/-- The value of the last entry under `key`: where a key is written twice, that one counts. -/
def Dict.last? {α : Type} : Dict α → String → Option α
  | [], _ => none
  | (k, v) :: rest, key => (last? rest key).or (if k = key then some v else none)

namespace Dict

variable {α : Type}

theorem mem_of_last? {d : Dict α} {key : String} {value : α} (h : last? d key = some value) :
    (key, value) ∈ d := by
  induction d with
  | nil => cases h
  | cons entry rest ih =>
      obtain ⟨k, v⟩ := entry
      rw [last?, Option.or_eq_some_iff] at h
      rcases h with hrest | ⟨-, hfirst⟩
      · exact List.mem_cons_of_mem _ (ih hrest)
      · split at hfirst
        · next hk =>
            cases hfirst
            rw [hk]
            exact List.mem_cons_self
        · cases hfirst

theorem last?_eq_none_iff {d : Dict α} {key : String} : last? d key = none ↔ key ∉ keys d := by
  induction d with
  | nil => simp [last?, keys]
  | cons entry rest ih =>
      obtain ⟨k, v⟩ := entry
      have hkeys : keys ((k, v) :: rest) = k :: keys rest := rfl
      rw [last?, Option.or_eq_none_iff, ih, hkeys, List.mem_cons, not_or, and_comm]
      have hfirst : (if k = key then some v else none) = none ↔ ¬key = k := by
        rw [eq_comm (a := key)]
        simp
      rw [hfirst]

end Dict

/-! ## §2. Binding maps -/

/-- Whether a value is a text. -/
def Value.IsText (v : Value) : Prop :=
  ∃ s, v = .str s

/-- Whether a value picks keys: null, or a list of texts. -/
def Value.IsPick (v : Value) : Prop :=
  v = .null ∨ ∃ items, v = .arr items ∧ ∀ item ∈ items, item.IsText

/-- Whether an object is a spread: what it picks are keys, and its flag is a truth value. -/
def IsSpread (members : State) : Prop :=
  (∀ v, ("pick", v) ∈ members → v.IsPick) ∧ ∀ v, ("optional", v) ∈ members → ∃ b, v = .bool b

/-- Whether a value is a list of spreads; items that are not objects do not matter. -/
def IsSpreadList (v : Value) : Prop :=
  ∃ items, v = .arr items ∧ ∀ members, .obj members ∈ items → IsSpread members

/-- Whether a value is a binding map: an object with a list of spreads, if it has spreads. -/
def IsBindingMap (v : Value) : Prop :=
  ∃ members, v = .obj members ∧ ∀ w, (spreadKey, w) ∈ members → IsSpreadList w

namespace Spread

/-- The keys that a value picks. -/
def pickOf : Value → Option (List String)
  | .arr items => some (items.filterMap Value.text?)
  | _ => none

/-- What a spread becomes by the members of an object. -/
def ofMembers (s : Spread) (members : State) : Spread where
  source := (Dict.last? members "source").getD s.source
  pick := ((Dict.last? members "pick").map pickOf).getD s.pick
  optional := ((Dict.last? members "optional").map (· == .bool true)).getD s.optional

theorem readKeys_reads (items : List Value) :
    Reads (readKeys items) (∀ item ∈ items, item.IsText)
      (· = items.filterMap Value.text?) := by
  induction items with
  | nil => exact .ok (by simp) rfl
  | cons item rest ih =>
      cases item with
      | str s =>
          refine (ih.map (f := (s :: ·)) fun keys _ hkeys => ?_).congr ?_ fun _ _ h => h
          · simp [hkeys, Value.text?]
          · simp [Value.IsText]
      | null | bool _ | num _ | arr _ | obj _ => exact .error (by simp [Value.IsText])

theorem readPick_reads (v : Value) : Reads (readPick v) v.IsPick (· = pickOf v) := by
  cases v with
  | null => exact .ok (.inl rfl) rfl
  | arr items =>
      refine ((readKeys_reads items).map fun keys _ hkeys => ?_).congr ?_ fun _ _ h => h
      · rw [hkeys]
        rfl
      · simp [Value.IsPick]
  | bool _ | num _ | str _ | obj _ => exact .error (by simp [Value.IsPick])

theorem readMembers_reads (members : State) :
    ∀ s : Spread, Reads (readMembers members s) (IsSpread members) (· = s.ofMembers members) := by
  induction members with
  | nil => exact fun s => .ok (by simp [IsSpread]) rfl
  | cons member rest ih =>
      obtain ⟨key, v⟩ := member
      intro s
      unfold readMembers
      -- one case for each name; the members after this one go on from what it made
      split
      · next hkey =>
          subst hkey
          refine (ih _).congr (by simp [IsSpread]) fun s' _ hs' => ?_
          simp [hs', ofMembers, Dict.last?]
      · split
        · next hkey =>
            subst hkey
            refine ((readPick_reads v).bind (R := (· = s.ofMembers (("pick", v) :: rest)))
              fun pick _ hpick => (ih _).congr .rfl fun s' _ hs' => ?_).congr ?_ fun _ _ h => h
            · simp [hs', hpick, ofMembers, Dict.last?]
            · simp [IsSpread, or_imp, forall_and, and_assoc]
        · split
          · next hkey =>
              subst hkey
              cases v with
              | bool b =>
                  refine (ih _).congr (by simp [IsSpread]) fun s' _ hs' => ?_
                  rw [hs']
                  cases hlast : Dict.last? rest "optional" <;> cases b <;>
                    simp [ofMembers, Dict.last?, hlast]
              | null | num _ | str _ | arr _ | obj _ => exact .error (by simp [IsSpread])
          · next hsource hpick hoptional =>
              refine (ih s).congr ?_ fun s' _ hs' => ?_
              · simp [IsSpread, Ne.symm hpick, Ne.symm hoptional]
              · simp [hs', ofMembers, Dict.last?, hsource, hpick, hoptional]

end Spread

namespace Bindings

/-- The spreads that a list stands for. -/
def spreadsOf : Value → List Spread
  | .arr items => (items.filterMap Value.object?).map (Spread.ofMembers ⟨.null, none, false⟩)
  | _ => []

/-- What binding maps become by the members of an object: its spreads come after those that
are there, and its other members are written as entries, in order. -/
def withMembers (b : Bindings) (members : State) : Bindings where
  spreads := b.spreads ++ (members.filter (·.1 = spreadKey)).flatMap (spreadsOf ·.2)
  entries := Dict.insertAll b.entries
    (Dict.mapValues Binding.ofValue (members.filter (·.1 ≠ spreadKey)))

theorem readSpreads_reads (items : List Value) :
    ∀ b : Bindings, Reads (readSpreads items b)
      (∀ members, .obj members ∈ items → IsSpread members)
      (· = { b with spreads := b.spreads ++ spreadsOf (.arr items) }) := by
  induction items with
  | nil => exact fun b => .ok (by simp) (by simp [spreadsOf])
  | cons item rest ih =>
      intro b
      cases item with
      | obj members =>
          have hspread := Spread.readMembers_reads members ⟨.null, none, false⟩
          refine (hspread.bind
            (R := (· = { b with spreads := b.spreads ++ spreadsOf (.arr (.obj members :: rest)) }))
            fun s _ hs => (ih (b.spread s)).congr .rfl fun b' _ hb' => ?_).congr ?_ fun _ _ h => h
          · simp [hb', hs, spread, spreadsOf, Value.object?]
          · simp [or_imp, forall_and]
      | null | bool _ | num _ | str _ | arr _ =>
          exact (ih b).congr (by simp) fun _ _ hb' => hb'

theorem readMembers_reads (members : State) :
    ∀ b : Bindings, Reads (readMembers members b)
      (∀ w, (spreadKey, w) ∈ members → IsSpreadList w) (· = b.withMembers members) := by
  induction members with
  | nil => exact fun b => .ok (by simp) (by simp [withMembers, Dict.mapValues, Dict.insertAll])
  | cons member rest ih =>
      obtain ⟨key, v⟩ := member
      intro b
      unfold readMembers
      split
      · next hkey =>
          subst hkey
          cases v with
          | arr items =>
              refine ((readSpreads_reads items b).bind
                (R := (· = b.withMembers ((spreadKey, .arr items) :: rest)))
                fun b' _ hb' => (ih b').congr .rfl fun b'' _ hb'' => ?_).congr ?_ fun _ _ h => h
              · simp [hb'', hb', withMembers]
              · simp [IsSpreadList, or_imp, forall_and]
          | null | bool _ | num _ | str _ | obj _ => exact .error (by simp [IsSpreadList])
      · next hkey =>
          refine (ih _).congr (by simp [Ne.symm hkey]) fun b' _ hb' => ?_
          simp [hb', withMembers, insert, hkey, Dict.mapValues, Dict.insertAll]

/-- What a value stands for as a binding map. -/
def ofValue (v : Value) : Bindings :=
  empty.withMembers (v.object?.getD [])

theorem read_reads (v : Value) : Reads (read v) (IsBindingMap v) (· = ofValue v) := by
  cases v with
  | obj members =>
      refine (readMembers_reads members empty).mapError.congr ?_ fun _ _ h => h
      simp [IsBindingMap]
  | null | bool _ | num _ | str _ | arr _ => exact .error (by simp [IsBindingMap])

end Bindings

/-! ## §3. The grammar of steps -/

/-- The fields of a step: the members of an object, or one to six items of a list, under the
names of the fields in order. -/
def Step.fieldsOf : Value → Option State
  | .obj members => some members
  | .arr items =>
      if 1 ≤ items.length ∧ items.length ≤ 6 then some (StepDraft.fieldNames.zip items) else none
  | _ => none

mutual
/-- A step has fields, and among them a text for the call.  Fields under other names than
those of a step may hold anything. -/
inductive IsStep : Value → Prop where
  | intro {v : Value} {fields : State} (form : Step.fieldsOf v = some fields)
      (hasCall : "call" ∈ Dict.keys fields)
      (call : ∀ w, ("call", w) ∈ fields → w.IsText)
      (inputs : ∀ w, ("in", w) ∈ fields → IsBindingMap w)
      (outputs : ∀ w, ("out", w) ∈ fields → IsBindingMap w)
      (slots : ∀ w, ("slots", w) ∈ fields → IsSlotTable w)
      (children : ∀ w, ("children", w) ∈ fields → w ≠ .null → IsSequence w)
      (collectPath : ∀ w, ("collectPath", w) ∈ fields → w ≠ .null → w.IsText) : IsStep v
/-- A slot table is an object of sequences. -/
inductive IsSlotTable : Value → Prop where
  | intro {members : State} (slots : ∀ name w, (name, w) ∈ members → IsSequence w) :
      IsSlotTable (.obj members)
/-- A sequence is a list whose items are null or steps. -/
inductive IsSequence : Value → Prop where
  | intro {items : List Value} (steps : ∀ v ∈ items, v ≠ .null → IsStep v) :
      IsSequence (.arr items)
end

mutual
/-- What a value stands for as a step: each part of the step is what the field under its name
stands for, and empty if there is no such field. -/
inductive StepIs : Value → Step → Prop where
  | intro {v : Value} {fields : State} {s : Step} (form : Step.fieldsOf v = some fields)
      (call : Dict.last? fields "call" = some (.str s.call))
      (inputs : s.inputs = ((Dict.last? fields "in").map Bindings.ofValue).getD .empty)
      (outputs : s.outputs = ((Dict.last? fields "out").map Bindings.ofValue).getD .empty)
      (slots : SlotsAre (Dict.last? fields "slots") s.slots)
      (children : ChildrenAre (Dict.last? fields "children") s.children)
      (collectPath : s.collectPath = (Dict.last? fields "collectPath").bind Value.text?) :
      StepIs v s
/-- What a field stands for as a slot table: the same names, and under each one what its value
stands for as a sequence. -/
inductive SlotsAre : Option Value → SlotMap → Prop where
  | absent : SlotsAre none []
  | table {members : State} {slots : SlotMap} (each : List.Forall₂ SlotIs members slots) :
      SlotsAre (some (.obj members)) slots
/-- What a member stands for as a slot. -/
inductive SlotIs : String × Value → String × List Step → Prop where
  | intro {name : String} {v : Value} {steps : List Step} (sequence : SequenceIs v steps) :
      SlotIs (name, v) (name, steps)
/-- What a field stands for as the default sequence. -/
inductive ChildrenAre : Option Value → Option (List Step) → Prop where
  | absent : ChildrenAre none none
  | null : ChildrenAre (some .null) none
  | steps {v : Value} {steps : List Step} (sequence : SequenceIs v steps) :
      ChildrenAre (some v) (some steps)
/-- What a value stands for as a sequence: the steps that its items stand for, in order and
without the null items. -/
inductive SequenceIs : Value → List Step → Prop where
  | intro {items : List Value} {steps : List Step}
      (each : List.Forall₂ StepIs (items.filter (!·.isNull)) steps) :
      SequenceIs (.arr items) steps
end

/-! ## §4. Fields and drafts -/

/-- What may stand under the name of a field. -/
@[mk_iff]
structure Step.Suits (name : String) (v : Value) : Prop where
  call : name = "call" → v.IsText
  inputs : name = "in" → IsBindingMap v
  outputs : name = "out" → IsBindingMap v
  slots : name = "slots" → IsSlotTable v
  children : name = "children" → v ≠ .null → IsSequence v
  collectPath : name = "collectPath" → v ≠ .null → v.IsText

/-- A step has fields that suit their names, and among them a call. -/
theorem isStep_iff {v : Value} {fields : State} (hv : Step.fieldsOf v = some fields) :
    IsStep v ↔ (∀ field ∈ fields, Step.Suits field.1 field.2) ∧ "call" ∈ Dict.keys fields := by
  constructor
  · rintro ⟨form, hasCall, call, inputs, outputs, slots, children, collectPath⟩
    cases hv.symm.trans form
    refine ⟨fun ⟨name, w⟩ hmem => ⟨?_, ?_, ?_, ?_, ?_, ?_⟩, hasCall⟩ <;> rintro rfl
    · exact call w hmem
    · exact inputs w hmem
    · exact outputs w hmem
    · exact slots w hmem
    · exact children w hmem
    · exact collectPath w hmem
  · rintro ⟨hsuits, hasCall⟩
    exact ⟨hv, hasCall, fun w hw => (hsuits _ hw).call rfl, fun w hw => (hsuits _ hw).inputs rfl,
      fun w hw => (hsuits _ hw).outputs rfl, fun w hw => (hsuits _ hw).slots rfl,
      fun w hw => (hsuits _ hw).children rfl, fun w hw => (hsuits _ hw).collectPath rfl⟩

namespace StepDraft

variable {α : Type}

/-- What reading fields makes of one part of a draft: what the last field under the name
stands for, or what was there before. -/
def PartIs (fields : State) (name : String) (before : α) (means : Value → α → Prop) (after : α) :
    Prop :=
  match Dict.last? fields name with
  | some w => means w after
  | none => after = before

theorem PartIs.nil {name : String} (before : α) (means : Value → α → Prop) :
    PartIs [] name before means before :=
  rfl

theorem PartIs.single {key name : String} {v : Value} {before after : α}
    {means : Value → α → Prop} :
    PartIs [(key, v)] name before means after ↔
      if key = name then means v after else after = before := by
  by_cases h : key = name <;> simp [PartIs, Dict.last?, h]

/-- The fields after the first one go on from what it made. -/
theorem PartIs.cons {field : String × Value} {rest : State} {name : String}
    {before between after : α} {means : Value → α → Prop}
    (hfirst : PartIs [field] name before means between)
    (hrest : PartIs rest name between means after) :
    PartIs (field :: rest) name before means after := by
  obtain ⟨key, v⟩ := field
  unfold PartIs at hfirst hrest ⊢
  rw [Dict.last?]
  cases hlast : Dict.last? rest name with
  | some w =>
      rw [hlast] at hrest
      exact hrest
  | none =>
      rw [hlast] at hrest
      obtain rfl : after = between := hrest
      exact hfirst

/-- A part that starts as what stands for no field is in the end what the last field stands
for. -/
theorem PartIs.field {fields : State} {name : String} {before after : α}
    {P : Option Value → α → Prop} (hnone : P none before)
    (h : PartIs fields name before (fun w => P (some w)) after) :
    P (Dict.last? fields name) after := by
  unfold PartIs at h
  cases hlast : Dict.last? fields name with
  | some w =>
      rw [hlast] at h
      exact h
  | none =>
      rw [hlast] at h
      obtain rfl : after = before := h
      exact hnone

/-- What reading fields makes of a draft. -/
@[mk_iff]
structure Becomes (before : StepDraft) (fields : State) (after : StepDraft) : Prop where
  call : PartIs fields "call" before.call (fun w call => ∃ s, w = .str s ∧ call = some s) after.call
  inputs : PartIs fields "in" before.inputs (fun w b => b = Bindings.ofValue w) after.inputs
  outputs : PartIs fields "out" before.outputs (fun w b => b = Bindings.ofValue w) after.outputs
  slots : PartIs fields "slots" before.slots (fun w => SlotsAre (some w)) after.slots
  children : PartIs fields "children" before.children (fun w => ChildrenAre (some w)) after.children
  collectPath : PartIs fields "collectPath" before.collectPath (fun w path => path = w.text?)
    after.collectPath

theorem Becomes.nil (d : StepDraft) : d.Becomes [] d :=
  ⟨.nil _ _, .nil _ _, .nil _ _, .nil _ _, .nil _ _, .nil _ _⟩

theorem Becomes.cons {before between after : StepDraft} {field : String × Value} {rest : State}
    (hfirst : before.Becomes [field] between) (hrest : between.Becomes rest after) :
    before.Becomes (field :: rest) after :=
  ⟨hfirst.call.cons hrest.call, hfirst.inputs.cons hrest.inputs,
    hfirst.outputs.cons hrest.outputs, hfirst.slots.cons hrest.slots,
    hfirst.children.cons hrest.children, hfirst.collectPath.cons hrest.collectPath⟩

theorem readText_reads (v : Value) : Reads (readText v) v.IsText (v = .str ·) := by
  cases v with
  | str s => exact .ok ⟨s, rfl⟩ rfl
  | null | bool _ | num _ | arr _ | obj _ => exact .error (by simp [Value.IsText])

/-- One field is read as the grammar says, if sequences and slot tables are. -/
theorem set_reads (d : StepDraft) (name : String) {v : Value}
    {sequence : Unit → Except Mismatch (List Step)} {slots : Unit → Except Mismatch SlotMap}
    (hsequence : Reads (sequence ()) (IsSequence v) (SequenceIs v))
    (hslots : Reads (slots ()) (IsSlotTable v) (fun t => SlotsAre (some v) t)) :
    Reads (d.set name v sequence slots) (Step.Suits name v) (d.Becomes [(name, v)]) := by
  have hnull : v.isNull = true ↔ v = .null := by cases v <;> simp [Value.isNull]
  unfold StepDraft.set
  -- one case for each name: its part changes and the others do not
  split
  · next hname =>
      subst hname
      refine ((readText_reads v).map fun s _ hs => ?_).congr ?_ fun _ _ h => h
      · simp [becomes_iff, PartIs.single, hs]
      · simp [Step.suits_iff]
  split
  · next hname =>
      subst hname
      refine ((Bindings.read_reads v).map fun b _ hb => ?_).congr ?_ fun _ _ h => h
      · simp [becomes_iff, PartIs.single, hb]
      · simp [Step.suits_iff]
  split
  · next hname =>
      subst hname
      refine ((Bindings.read_reads v).map fun b _ hb => ?_).congr ?_ fun _ _ h => h
      · simp [becomes_iff, PartIs.single, hb]
      · simp [Step.suits_iff]
  split
  · next hname =>
      subst hname
      refine (hslots.map fun t _ ht => ?_).congr ?_ fun _ _ h => h
      · simp [becomes_iff, PartIs.single, ht]
      · simp [Step.suits_iff]
  split
  · next hname =>
      subst hname
      split
      · next h =>
          obtain rfl := hnull.mp h
          refine .ok (by simp [Step.suits_iff]) ?_
          simp [becomes_iff, PartIs.single, ChildrenAre.null]
      · next h =>
          rw [hnull] at h
          refine (hsequence.map fun steps _ hsteps => ?_).congr ?_ fun _ _ h => h
          · simp [becomes_iff, PartIs.single, ChildrenAre.steps hsteps]
          · simp [Step.suits_iff, h]
  split
  · next hname =>
      subst hname
      split
      · next h =>
          obtain rfl := hnull.mp h
          refine .ok (by simp [Step.suits_iff]) ?_
          simp [becomes_iff, PartIs.single, Value.text?]
      · next h =>
          rw [hnull] at h
          refine ((readText_reads v).map fun s _ hs => ?_).congr ?_ fun _ _ h => h
          · simp [becomes_iff, PartIs.single, hs, Value.text?]
          · simp [Step.suits_iff, h]
  · next hcall hin hout hslots hchildren hpath =>
      refine .ok ?_ ?_
      · simp [Step.suits_iff, hcall, hin, hout, hslots, hchildren, hpath]
      · simp [becomes_iff, PartIs.single, hcall, hin, hout, hslots, hchildren, hpath]

/-- A draft becomes a step if it was given a call. -/
theorem finish_reads {v : Value} {fields : State} (hv : Step.fieldsOf v = some fields)
    {d : StepDraft} (hd : blank.Becomes fields d) :
    Reads d.finish ("call" ∈ Dict.keys fields) (StepIs v) := by
  obtain ⟨call, inputs, outputs, slots, children, collectPath⟩ := d
  have hcall := hd.call
  unfold PartIs at hcall
  cases hlast : Dict.last? fields "call" with
  | none =>
      rw [hlast] at hcall
      obtain rfl : call = none := hcall
      exact .error (Dict.last?_eq_none_iff.mp hlast)
  | some w =>
      rw [hlast] at hcall
      obtain ⟨s, rfl, rfl⟩ := hcall
      refine .ok (List.mem_map_of_mem (Dict.mem_of_last? hlast)) (.intro hv hlast ?_ ?_ ?_ ?_ ?_)
      · exact hd.inputs.field (P := fun w b => b = (w.map Bindings.ofValue).getD .empty) rfl
      · exact hd.outputs.field (P := fun w b => b = (w.map Bindings.ofValue).getD .empty) rfl
      · exact hd.slots.field (P := SlotsAre) .absent
      · exact hd.children.field (P := ChildrenAre) .absent
      · exact hd.collectPath.field (P := fun w path => path = w.bind Value.text?) rfl

end StepDraft

/-! ## §5. The readers follow the grammar -/

namespace Step

theorem readFields_cons (name : String) (v : Value) (rest : List (String × Value))
    (d : StepDraft) :
    readFields ((name, v) :: rest) d =
      (d.set name v (fun _ => readSequence v) (fun _ => readSlotTable v)).bind
        (readFields rest) := by
  rw [readFields]
  cases d.set name v (fun _ => readSequence v) (fun _ => readSlotTable v) <;> rfl

theorem readPositions_cons (name : String) (names : List String) (v : Value)
    (rest : List Value) (d : StepDraft) :
    readPositions (name :: names) (v :: rest) d =
      (d.set name v (fun _ => readSequence v) (fun _ => readSlotTable v)).bind
        (readPositions names rest) := by
  rw [readPositions]
  cases d.set name v (fun _ => readSequence v) (fun _ => readSlotTable v) <;> rfl

theorem readItems_cons {v : Value} (hv : v.isNull = false) (rest : List Value) :
    readItems (v :: rest) = (read v).bind fun s => (readItems rest).map (s :: ·) := by
  rw [readItems, if_neg (by simp [hv])]
  cases read v <;> rfl

theorem readSlots_cons (name : String) (v : Value) (rest : List (String × Value)) :
    readSlots ((name, v) :: rest) =
      (readSequence v).bind fun steps => (readSlots rest).map ((name, steps) :: ·) := by
  rw [readSlots]
  cases readSequence v <;> rfl

theorem read_arr {items : List Value} (hitems : items ≠ []) :
    read (.arr items) = (readPositions StepDraft.fieldNames items .blank).bind fun r =>
      if r.2 then r.1.finish else .error (.tooManyFields items.length) := by
  rw [read, if_neg (by simpa using hitems)]
  cases readPositions StepDraft.fieldNames items .blank <;> rfl

end Step

mutual
/-- A step. -/
theorem Step.read_reads (v : Value) : Reads (Step.read v) (IsStep v) (StepIs v) := by
  have hnone : Step.fieldsOf v = none → ¬ IsStep v := by
    rintro hv ⟨form⟩
    cases hv.symm.trans form
  match v with
  | .obj members =>
    have hv : Step.fieldsOf (.obj members) = some members := rfl
    unfold Step.read
    refine ((Step.readFields_reads members .blank).bind fun d _ hd => ?_).congr
      (isStep_iff hv).symm fun _ _ h => h
    exact StepDraft.finish_reads hv hd
  | .arr items =>
    by_cases hitems : items = []
    · subst hitems
      unfold Step.read
      exact .error (hnone rfl)
    · have hleast : 1 ≤ items.length := List.length_pos_iff.mpr hitems
      have hpositions := Step.readPositions_reads StepDraft.fieldNames items .blank
      rw [Step.read_arr hitems]
      by_cases hmost : items.length ≤ 6
      · have hv : Step.fieldsOf (.arr items) = some (StepDraft.fieldNames.zip items) :=
          if_pos ⟨hleast, hmost⟩
        refine (hpositions.bind fun r _ hr => ?_).congr (isStep_iff hv).symm fun _ _ h => h
        have hcomplete : r.2 = true := hr.2.trans (decide_eq_true hmost)
        rw [if_pos hcomplete]
        exact StepDraft.finish_reads hv hr.1
      · have hv : Step.fieldsOf (.arr items) = none := if_neg fun h => hmost h.2
        have htooMany : Reads ((Step.readPositions StepDraft.fieldNames items .blank).bind
            fun r => if r.2 then r.1.finish else .error (.tooManyFields items.length))
            ((∀ field ∈ StepDraft.fieldNames.zip items, Step.Suits field.1 field.2) ∧ False)
            (StepIs (.arr items)) := by
          refine hpositions.bind fun r _ hr => ?_
          have hcomplete : r.2 = false := hr.2.trans (decide_eq_false hmost)
          rw [hcomplete]
          exact .error id
        exact htooMany.congr (by simp [hnone hv]) fun _ _ h => h
  | .null | .bool _ | .num _ | .str _ =>
    unfold Step.read
    exact .error (hnone rfl)
/-- The fields of a step given as an object. -/
theorem Step.readFields_reads (members : List (String × Value)) (d : StepDraft) :
    Reads (Step.readFields members d) (∀ field ∈ members, Step.Suits field.1 field.2)
      (d.Becomes members) := by
  match members with
  | [] =>
    unfold Step.readFields
    exact .ok (by simp) (.nil d)
  | (name, v) :: rest =>
    rw [Step.readFields_cons]
    have hfirst : Reads
        (d.set name v (fun _ => Step.readSequence v) (fun _ => Step.readSlotTable v))
        (Step.Suits name v) (d.Becomes [(name, v)]) :=
      d.set_reads name (Step.readSequence_reads v) (Step.readSlotTable_reads v)
    have hiff := (List.forall_mem_cons (p := fun field : String × Value =>
      Step.Suits field.1 field.2) (a := (name, v)) (l := rest)).symm
    refine (hfirst.bind fun mid _ hmid => ?_).congr hiff fun _ _ h => h
    exact (Step.readFields_reads rest mid).congr .rfl fun _ _ hrest => hmid.cons hrest
/-- The fields of a step given as a list. -/
theorem Step.readPositions_reads (names : List String) (items : List Value) (d : StepDraft) :
    Reads (Step.readPositions names items d)
      (∀ field ∈ names.zip items, Step.Suits field.1 field.2)
      (fun r => d.Becomes (names.zip items) r.1 ∧ r.2 = decide (items.length ≤ names.length)) := by
  match names, items with
  | _, [] =>
    unfold Step.readPositions
    rw [List.zip_nil_right]
    exact .ok (by simp) ⟨.nil d, by simp⟩
  | [], _ :: _ =>
    unfold Step.readPositions
    exact .ok (by simp) ⟨.nil d, by simp⟩
  | name :: names, v :: rest =>
    rw [Step.readPositions_cons]
    have hfirst : Reads
        (d.set name v (fun _ => Step.readSequence v) (fun _ => Step.readSlotTable v))
        (Step.Suits name v) (d.Becomes [(name, v)]) :=
      d.set_reads name (Step.readSequence_reads v) (Step.readSlotTable_reads v)
    have hiff := (List.forall_mem_cons (p := fun field : String × Value =>
      Step.Suits field.1 field.2) (a := (name, v)) (l := names.zip rest)).symm
    refine (hfirst.bind fun mid _ hmid => ?_).congr hiff fun _ _ h => h
    refine (Step.readPositions_reads names rest mid).congr .rfl fun r _ hrest => ?_
    exact ⟨hmid.cons hrest.1, by simpa using hrest.2⟩
/-- A sequence. -/
theorem Step.readSequence_reads (v : Value) :
    Reads (Step.readSequence v) (IsSequence v) (SequenceIs v) := by
  match v with
  | .arr items =>
    unfold Step.readSequence
    refine (Step.readItems_reads items).congr ⟨.intro, ?_⟩ fun _ _ h => .intro h
    rintro ⟨hsteps⟩
    exact hsteps
  | .null | .bool _ | .num _ | .str _ | .obj _ =>
    unfold Step.readSequence
    exact .error nofun
/-- The items of a sequence. -/
theorem Step.readItems_reads (items : List Value) :
    Reads (Step.readItems items) (∀ v ∈ items, v ≠ .null → IsStep v)
      (List.Forall₂ StepIs (items.filter (!·.isNull))) := by
  match items with
  | [] =>
    unfold Step.readItems
    exact .ok (by simp) .nil
  | v :: rest =>
    cases hv : v.isNull with
    | true =>
      obtain rfl : v = .null := by cases v <;> simp [Value.isNull] at hv ⊢
      unfold Step.readItems
      exact (Step.readItems_reads rest).congr (by simp) fun _ _ h => h
    | false =>
      have hne : v ≠ .null := by
        rintro rfl
        cases hv
      rw [Step.readItems_cons hv]
      have hrest := Step.readItems_reads rest
      refine ((Step.read_reads v).bind fun s _ hs => hrest.map fun steps _ hsteps => ?_).congr
        ?_ fun _ _ h => h
      · simp [hv, hs, hsteps]
      · simp [hne]
/-- A slot table. -/
theorem Step.readSlotTable_reads (v : Value) :
    Reads (Step.readSlotTable v) (IsSlotTable v) (fun t => SlotsAre (some v) t) := by
  match v with
  | .obj members =>
    unfold Step.readSlotTable
    refine (Step.readSlots_reads members).congr ⟨?_, ?_⟩ fun _ _ h => .table h
    · exact fun h => .intro fun name w hmem => h (name, w) hmem
    · rintro ⟨hslots⟩ ⟨name, w⟩ hmem
      exact hslots name w hmem
  | .null | .bool _ | .num _ | .str _ | .arr _ =>
    unfold Step.readSlotTable
    exact .error nofun
/-- The slots of a slot table. -/
theorem Step.readSlots_reads (members : List (String × Value)) :
    Reads (Step.readSlots members) (∀ field ∈ members, IsSequence field.2)
      (List.Forall₂ SlotIs members) := by
  match members with
  | [] =>
    unfold Step.readSlots
    exact .ok (by simp) .nil
  | (name, v) :: rest =>
    rw [Step.readSlots_cons]
    have hiff := (List.forall_mem_cons (p := fun field : String × Value => IsSequence field.2)
      (a := (name, v)) (l := rest)).symm
    refine ((Step.readSequence_reads v).bind fun steps _ hsteps => ?_).congr hiff fun _ _ h => h
    exact (Step.readSlots_reads rest).map fun table _ htable => .cons (.intro hsteps) htable
end

/-! ## §6. A value stands for one thing -/

theorem forall₂_unique {α β : Type} {R : α → β → Prop} {as : List α}
    (h : ∀ a ∈ as, ∀ b c, R a b → R a c → b = c) :
    ∀ {bs cs : List β}, List.Forall₂ R as bs → List.Forall₂ R as cs → bs = cs := by
  induction as with
  | nil =>
      intro bs cs hbs hcs
      cases hbs
      cases hcs
      rfl
  | cons a as ih =>
      intro bs cs hbs hcs
      cases hbs with
      | cons hb hbs =>
          cases hcs with
          | cons hc hcs =>
              have hrest := ih (fun a' ha' => h a' (List.mem_cons_of_mem a ha')) hbs hcs
              rw [h a List.mem_cons_self _ _ hb hc, hrest]

/-- What a field of a step holds is smaller than the step. -/
theorem Step.sizeOf_lt_of_mem_fieldsOf {v : Value} {fields : State} {name : String} {w : Value}
    (hv : fieldsOf v = some fields) (hmem : (name, w) ∈ fields) : sizeOf w < sizeOf v := by
  cases v with
  | null | bool _ | num _ | str _ => cases hv
  | obj members =>
      cases hv
      have hsize := List.sizeOf_lt_of_mem hmem
      simp only [Prod.mk.sizeOf_spec, Value.obj.sizeOf_spec] at hsize ⊢
      omega
  | arr items =>
      rw [fieldsOf, Option.ite_none_right_eq_some, Option.some.injEq] at hv
      · obtain ⟨-, rfl⟩ := hv
        have hsize := List.sizeOf_lt_of_mem (List.of_mem_zip hmem).2
        simp only [Value.arr.sizeOf_spec] at hsize ⊢
        omega

/-- A value stands for at most one sequence, if all smaller ones stand for one step at most. -/
theorem SequenceIs.unique {v : Value}
    (hsmaller : ∀ w, sizeOf w < sizeOf v → ∀ s t, StepIs w s → StepIs w t → s = t)
    {xs ys : List Step} (hxs : SequenceIs v xs) (hys : SequenceIs v ys) : xs = ys := by
  obtain ⟨hxs⟩ := hxs
  obtain ⟨hys⟩ := hys
  refine forall₂_unique (fun w hw => hsmaller w ?_) hxs hys
  have hsize := List.sizeOf_lt_of_mem (List.mem_of_mem_filter hw)
  simp only [Value.arr.sizeOf_spec]
  omega

theorem SlotsAre.unique {v : Option Value}
    (hsmaller : ∀ u w, v = some u → sizeOf w < sizeOf u →
      ∀ xs ys, SequenceIs w xs → SequenceIs w ys → xs = ys)
    {slots slots' : SlotMap} (h : SlotsAre v slots) (h' : SlotsAre v slots') :
    slots = slots' := by
  cases h with
  | absent =>
      cases h'
      rfl
  | table each =>
      cases h' with
      | table each' =>
          refine forall₂_unique (fun member hmem entry entry' hentry hentry' => ?_) each each'
          obtain ⟨hxs⟩ := hentry
          obtain ⟨hys⟩ := hentry'
          have hsize := List.sizeOf_lt_of_mem hmem
          have hequal := hsmaller _ _ rfl ?_ _ _ hxs hys
          · rw [hequal]
          · simp only [Prod.mk.sizeOf_spec, Value.obj.sizeOf_spec] at hsize ⊢
            omega

theorem ChildrenAre.unique {v : Option Value}
    (hsequence : ∀ u, v = some u → ∀ xs ys, SequenceIs u xs → SequenceIs u ys → xs = ys)
    {children children' : Option (List Step)} (h : ChildrenAre v children)
    (h' : ChildrenAre v children') : children = children' := by
  cases h with
  | absent =>
      cases h'
      rfl
  | null =>
      cases h' with
      | null => rfl
      | steps hnull => cases hnull
  | steps hxs =>
      cases h' with
      | null => cases hxs
      | steps hys => rw [hsequence _ rfl _ _ hxs hys]

/-- A value stands for at most one step.  On the size of the value: each part of the step comes
from one field, which is smaller. -/
theorem StepIs.unique (v : Value) (s t : Step) (hs : StepIs v s) (ht : StepIs v t) : s = t := by
  have hsequence : ∀ u, sizeOf u ≤ sizeOf v → ∀ xs ys, SequenceIs u xs → SequenceIs u ys →
      xs = ys :=
    fun u hu xs ys => SequenceIs.unique fun w hw => StepIs.unique w
  obtain @⟨_, fields, _, form, hcall, hinputs, houtputs, hslots, hchildren, hpath⟩ := hs
  obtain ⟨form', hcall', hinputs', houtputs', hslots', hchildren', hpath'⟩ := ht
  obtain rfl := Option.some.inj (form.symm.trans form')
  have hfield : ∀ {name u}, Dict.last? fields name = some u → sizeOf u < sizeOf v :=
    fun h => Step.sizeOf_lt_of_mem_fieldsOf form (Dict.mem_of_last? h)
  have hslot := hslots.unique
    (fun u w hu hw => hsequence w (Nat.le_of_lt (Nat.lt_trans hw (hfield hu)))) hslots'
  have hchild := hchildren.unique (fun u hu => hsequence u (Nat.le_of_lt (hfield hu))) hchildren'
  obtain ⟨call, inputs, outputs, slots, children, collectPath⟩ := s
  obtain ⟨call', inputs', outputs', slots', children', collectPath'⟩ := t
  have hcalls : call = call' := Value.str.inj (Option.some.inj (hcall.symm.trans hcall'))
  obtain rfl : inputs = inputs' := hinputs.trans hinputs'.symm
  obtain rfl : outputs = outputs' := houtputs.trans houtputs'.symm
  obtain rfl : collectPath = collectPath' := hpath.trans hpath'.symm
  obtain rfl : slots = slots' := hslot
  obtain rfl : children = children' := hchild
  rw [hcalls]
termination_by sizeOf v

/-! ## §7. Documents -/

/-- What a value stands for as a document: the steps of its sequence, or none. -/
inductive DocumentIs : Value → Document → Prop where
  | null : DocumentIs .null ⟨[]⟩
  | absent {members : State} (compose : Dict.get? members "compose" = none) :
      DocumentIs (.obj members) ⟨[]⟩
  | empty {members : State} (compose : Dict.get? members "compose" = some .null) :
      DocumentIs (.obj members) ⟨[]⟩
  | steps {members : State} {w : Value} {steps : List Step}
      (compose : Dict.get? members "compose" = some w) (sequence : SequenceIs w steps) :
      DocumentIs (.obj members) ⟨steps⟩

namespace Document

end Document

/-- A value stands for at most one document. -/
theorem DocumentIs.unique {v : Value} {d d' : Document} (h : DocumentIs v d)
    (h' : DocumentIs v d') : d = d' := by
  cases h with
  | null =>
      cases h'
      rfl
  | absent hcompose =>
      cases h' with
      | absent => rfl
      | empty hcompose' => cases hcompose.symm.trans hcompose'
      | steps hcompose' => cases hcompose.symm.trans hcompose'
  | empty hcompose =>
      cases h' with
      | absent hcompose' => cases hcompose.symm.trans hcompose'
      | empty => rfl
      | steps hcompose' hsteps' =>
          cases hcompose.symm.trans hcompose'
          cases hsteps'
  | steps hcompose hsteps =>
      cases h' with
      | absent hcompose' => cases hcompose.symm.trans hcompose'
      | empty hcompose' =>
          cases hcompose.symm.trans hcompose'
          cases hsteps
      | steps hcompose' hsteps' =>
          cases hcompose.symm.trans hcompose'
          rw [SequenceIs.unique (fun w _ => StepIs.unique w) hsteps hsteps']

end StepFlow
