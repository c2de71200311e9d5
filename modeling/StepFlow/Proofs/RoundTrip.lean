import StepFlow.Document.Basic

/-
  StepFlow.Proofs.RoundTrip
  ─────────────────────────
  Writing a document and reading it again gives the same document, in whatever
  order its slots are written.

  Not every binding map survives this: one whose required entry looks like an
  optional one does not.  But what was read has a normal form: entries have
  different keys, none of them is the reserved one, and a required entry does not
  look like an optional one (`Bindings.IsNormal`, and for every step at every depth
  `Step.IsNormal`).  Three facts about it make the result,
  `Document.toValue_reads_back`:

    * reading only makes normal steps (`Step.read_isNormal`);
    * a normal step is still one with its slots in another order
      (`Step.IsNormal.of_alike`);
    * a normal step survives (`Step.IsNormal.read_toValue`).
-/

namespace StepFlow

/-! ## §1. Dictionaries with different keys -/

namespace Dict

variable {α β : Type}

@[simp] theorem keys_append (d e : Dict α) : keys (d ++ e) = keys d ++ keys e :=
  List.map_append

@[simp] theorem keys_mapValues (f : α → β) (d : Dict α) : keys (mapValues f d) = keys d := by
  simp [keys, mapValues, Function.comp_def]

theorem insert_of_not_mem (d : Dict α) {key : String} (value : α) (h : key ∉ keys d) :
    insert d key value = d ++ [(key, value)] := by
  induction d with
  | nil => rfl
  | cons entry rest ih =>
      obtain ⟨k, v⟩ := entry
      have hne : k ≠ key := fun hk => h (by simp [keys, hk])
      have hrest : key ∉ keys rest := fun hk => h (List.mem_cons_of_mem k hk)
      simp [insert, hne, ih hrest]

theorem not_mem_keys_of_nodup_append {d rest : Dict α} {entry : String × α}
    (h : (keys (d ++ entry :: rest)).Nodup) : entry.1 ∉ keys d := by
  rw [keys_append] at h
  intro hmem
  exact (List.nodup_append.mp h).2.2 entry.1 hmem entry.1 List.mem_cons_self rfl

/-- Writing new keys, all of them different, puts them at the end. -/
theorem insertAll_of_nodup (new : Dict α) :
    ∀ (d : Dict α), (keys (d ++ new)).Nodup → insertAll d new = d ++ new := by
  induction new with
  | nil => intro d _; exact (List.append_nil d).symm
  | cons entry rest ih =>
      intro d h
      have hfresh : entry.1 ∉ keys d := not_mem_keys_of_nodup_append h
      show insertAll (insert d entry.1 entry.2) rest = _
      rw [insert_of_not_mem d entry.2 hfresh, ih]
      · simp
      · simpa using h

end Dict

/-- A mapped result is there if the result is. -/
theorem map_eq_ok_iff {ε α β : Type} {f : α → β} {x : Except ε α} {b : β} :
    x.map f = .ok b ↔ ∃ a, x = .ok a ∧ f a = b := by
  cases x <;> simp [Except.map]

/-! ## §2. Binding maps -/

/-- A binding that reads back from its own value. -/
def Binding.IsNormal (b : Binding) : Prop :=
  Binding.ofValue b.toValue = b

theorem Binding.ofValue_isNormal (v : Value) : (Binding.ofValue v).IsNormal := by
  unfold IsNormal
  cases v with
  | obj members =>
      by_cases h : isOptionalWrapper members = true
      · have hread : ofValue (.obj members) =
            .optional ((Dict.get? members "value").getD .null) := by
          simp [ofValue, h]
        rw [hread]
        rfl
      · have hread : ofValue (.obj members) = .required (.obj members) := by
          simp [ofValue, h]
        rw [hread]
        exact hread
  | null | bool _ | num _ | str _ | arr _ => rfl

namespace Spread

theorem readKeys_map_str (keys : List String) : readKeys (keys.map .str) = .ok keys := by
  induction keys with
  | nil => rfl
  | cons key rest ih =>
      show (readKeys (rest.map .str)).map (key :: ·) = _
      rw [ih]
      rfl

theorem readMembers_toValue (s : Spread) :
    ∃ members, s.toValue = .obj members ∧ readMembers members ⟨.null, none, false⟩ = .ok s := by
  refine ⟨_, rfl, ?_⟩
  obtain ⟨source, pick, optional⟩ := s
  -- the members that are left out are those that start as what they should be
  cases pick <;> cases optional <;>
    simp [readMembers, readPick, readKeys_map_str, bind, Except.bind, Except.map]

end Spread

namespace Bindings

/-- What reading makes of a binding map. -/
structure IsNormal (b : Bindings) : Prop where
  /-- Every key has one entry. -/
  nodup : (Dict.keys b.entries).Nodup
  /-- The key of the spreads has none. -/
  unreserved : spreadKey ∉ Dict.keys b.entries
  /-- Required and optional entries can be told apart. -/
  entries : ∀ entry ∈ b.entries, entry.2.IsNormal

theorem IsNormal.empty : empty.IsNormal :=
  ⟨List.nodup_nil, List.not_mem_nil, nofun⟩

theorem IsNormal.spread {b : Bindings} (h : b.IsNormal) (s : Spread) : (b.spread s).IsNormal :=
  ⟨h.nodup, h.unreserved, h.entries⟩

theorem IsNormal.insert {b : Bindings} (h : b.IsNormal) {key : String} (hkey : key ≠ spreadKey)
    {entry : Binding} (hentry : entry.IsNormal) : (b.insert key entry).IsNormal where
  nodup := Dict.nodup_keys_insert h.nodup key entry
  unreserved := by
    show spreadKey ∉ Dict.keys (Dict.insert b.entries key entry)
    have hbefore := h.unreserved
    rw [Dict.keys_insert]
    split
    · exact hbefore
    · simp [hbefore, hkey.symm]
  entries := by
    intro e he
    rcases Dict.mem_insert he with rfl | hmem
    · exact hentry
    · exact h.entries e hmem

theorem readSpreads_isNormal (items : List Value) :
    ∀ {b b' : Bindings}, b.IsNormal → readSpreads items b = .ok b' → b'.IsNormal := by
  induction items with
  | nil =>
      intro b b' hb h
      cases h
      exact hb
  | cons item rest ih =>
      intro b b' hb h
      cases item with
      | obj members =>
          simp only [readSpreads, bind, Except.bind] at h
          split at h
          · cases h
          · next s _ => exact ih (hb.spread s) h
      | null | bool _ | num _ | str _ | arr _ => exact ih hb h

/-- Reading makes normal binding maps. -/
theorem readMembers_isNormal (members : State) :
    ∀ {b b' : Bindings}, b.IsNormal → readMembers members b = .ok b' → b'.IsNormal := by
  induction members with
  | nil =>
      intro b b' hb h
      cases h
      exact hb
  | cons member rest ih =>
      obtain ⟨key, v⟩ := member
      intro b b' hb h
      unfold readMembers at h
      split at h
      · cases v with
        | arr items =>
            simp only [bind, Except.bind] at h
            split at h
            · cases h
            · next mid hmid => exact ih (readSpreads_isNormal items hb hmid) h
        | null | bool _ | num _ | str _ | obj _ => cases h
      · next hkey => exact ih (hb.insert hkey (Binding.ofValue_isNormal v)) h

/-- Spreads read back, after those that are there. -/
theorem readSpreads_map_toValue (spreads : List Spread) :
    ∀ (b : Bindings), readSpreads (spreads.map Spread.toValue) b =
      .ok { b with spreads := b.spreads ++ spreads } := by
  induction spreads with
  | nil => intro b; simp [readSpreads]
  | cons s rest ih =>
      intro b
      obtain ⟨members, hs, hread⟩ := s.readMembers_toValue
      simp only [List.map_cons, hs, readSpreads, hread, bind, Except.bind]
      rw [ih]
      simp [spread]

theorem readMembers_cons {key : String} (hkey : key ≠ spreadKey) (v : Value) (rest : State)
    (b : Bindings) :
    readMembers ((key, v) :: rest) b = readMembers rest (b.insert key (.ofValue v)) := by
  simp [readMembers, hkey]

/-- Entries read back, after those that are there. -/
theorem readMembers_mapValues_toValue (entries : Dict Binding)
    (hnormal : ∀ entry ∈ entries, entry.2.IsNormal) :
    ∀ (b : Bindings), (Dict.keys (b.entries ++ entries)).Nodup →
      spreadKey ∉ Dict.keys entries →
      readMembers (Dict.mapValues Binding.toValue entries) b =
        .ok { b with entries := b.entries ++ entries } := by
  induction entries with
  | nil => intro b _ _; simp [Dict.mapValues, readMembers]
  | cons entry rest ih =>
      obtain ⟨key, binding⟩ := entry
      intro b hnodup hkeys
      have hkey : key ≠ spreadKey := fun h => hkeys (by simp [Dict.keys, h])
      have hrest : spreadKey ∉ Dict.keys rest := fun h => hkeys (List.mem_cons_of_mem _ h)
      have hfresh : key ∉ Dict.keys b.entries := Dict.not_mem_keys_of_nodup_append hnodup
      have hread : Binding.ofValue binding.toValue = binding :=
        hnormal (key, binding) List.mem_cons_self
      -- the first entry goes to the end of what is there, and the rest after it
      show readMembers ((key, binding.toValue) :: Dict.mapValues Binding.toValue rest) b = _
      rw [readMembers_cons hkey, hread, insert, Dict.insert_of_not_mem _ _ hfresh,
        ih (fun e he => hnormal e (List.mem_cons_of_mem _ he)) _ _ hrest]
      · simp
      · simpa using hnodup

/-- Normal binding maps survive. -/
theorem IsNormal.ofMembers_toMembers {b : Bindings} (h : b.IsNormal) :
    ofMembers b.toMembers = .ok b := by
  obtain ⟨spreads, entries⟩ := b
  have hentries := readMembers_mapValues_toValue entries h.entries ⟨spreads, []⟩
    h.nodup h.unreserved
  cases spreads with
  | nil =>
      have hwritten : toMembers ⟨[], entries⟩ = Dict.mapValues Binding.toValue entries :=
        Dict.insertAll_of_nodup _ [] (by simpa using h.nodup)
      rw [ofMembers, hwritten]
      exact hentries
  | cons s rest =>
      have hwritten : toMembers ⟨s :: rest, entries⟩ =
          (spreadKey, .arr ((s :: rest).map Spread.toValue)) ::
            Dict.mapValues Binding.toValue entries := by
        refine Dict.insertAll_of_nodup _ [(spreadKey, _)] ?_
        rw [Dict.keys_append, Dict.keys_mapValues]
        exact List.nodup_cons.mpr ⟨h.unreserved, h.nodup⟩
      rw [ofMembers, hwritten, readMembers, if_pos rfl]
      simp only [readSpreads_map_toValue, bind, Except.bind]
      exact hentries

/-- What was read as a binding map is normal. -/
theorem isNormal_of_read {v : Value} {b : Bindings} (h : read v = .ok b) : b.IsNormal := by
  cases v with
  | obj members =>
      have hread : ofMembers members = .ok b := by
        simp only [read] at h
        cases hmembers : ofMembers members with
        | error e =>
            rw [hmembers] at h
            cases h
        | ok b' =>
            rw [hmembers] at h
            cases h
            rfl
      exact readMembers_isNormal members IsNormal.empty hread
  | null | bool _ | num _ | str _ | arr _ => cases h

/-- A normal binding map reads back from its own value. -/
theorem IsNormal.read_toMembers {b : Bindings} (h : b.IsNormal) :
    read (.obj b.toMembers) = .ok b := by
  rw [read, h.ofMembers_toMembers]
  rfl

end Bindings

/-! ## §3. Writing and reading one step -/

namespace Step

theorem readFields_append (xs ys : List (String × Value)) :
    ∀ (d : StepDraft), readFields (xs ++ ys) d = (readFields xs d).bind (readFields ys) := by
  induction xs with
  | nil => intro d; simp [readFields, Except.bind]
  | cons x xs ih =>
      obtain ⟨name, v⟩ := x
      intro d
      simp only [List.cons_append, readFields]
      split
      · rfl
      · exact ih _

/-- A field that is left out when reading it would change nothing. -/
theorem readFields_field {d d' : StepDraft} {name : String} {v : Value} {skip : Bool}
    (hskip : skip = true → d = d')
    (hset : d.set name v (fun _ => readSequence v) (fun _ => readSlotTable v) = .ok d') :
    readFields (if skip then [] else [(name, v)]) d = .ok d' := by
  split
  · next h => rw [hskip h, readFields]
  · simp [readFields, hset]

theorem eq_empty_of_isEmpty {b : Bindings} (h : b.isEmpty = true) : b = .empty := by
  obtain ⟨spreads, entries⟩ := b
  simp only [Bindings.isEmpty, Bool.and_eq_true, List.isEmpty_iff] at h
  rw [h.1, h.2]
  rfl

/-- A step whose parts read back reads back. -/
theorem read_toValue {s : Step} (hin : Bindings.read (.obj s.inputs.toMembers) = .ok s.inputs)
    (hout : Bindings.read (.obj s.outputs.toMembers) = .ok s.outputs)
    (hslots : readSlots (slotValues s.slots) = .ok s.slots)
    (hchildren : ∀ steps, s.children = some steps → readItems (values steps) = .ok steps) :
    read s.toValue = .ok s := by
  obtain ⟨call, inputs, outputs, slots, children, collectPath⟩ := s
  -- what is written is read field by field, each on top of those before it
  have hfirst : ∀ rest, readFields (("call", .str call) :: rest) .blank =
      readFields rest ⟨some call, .empty, .empty, [], none, none⟩ := by
    intro rest
    simp [readFields, StepDraft.set, readText, Except.map, StepDraft.blank]
  have hfieldIn : readFields (if inputs.isEmpty then [] else [("in", .obj inputs.toMembers)])
      ⟨some call, .empty, .empty, [], none, none⟩ =
        .ok ⟨some call, inputs, .empty, [], none, none⟩ := by
    refine readFields_field (fun hempty => ?_) ?_
    · rw [eq_empty_of_isEmpty hempty]
    · simp [StepDraft.set, hin, Except.map]
  have hfieldOut : readFields
      (if outputs.isEmpty then [] else [("out", .obj outputs.toMembers)])
      ⟨some call, inputs, .empty, [], none, none⟩ =
        .ok ⟨some call, inputs, outputs, [], none, none⟩ := by
    refine readFields_field (fun hempty => ?_) ?_
    · rw [eq_empty_of_isEmpty hempty]
    · simp [StepDraft.set, hout, Except.map]
  have hfieldSlots : readFields
      (if slots.isEmpty then [] else [("slots", .obj (slotValues slots))])
      ⟨some call, inputs, outputs, [], none, none⟩ =
        .ok ⟨some call, inputs, outputs, slots, none, none⟩ := by
    refine readFields_field (fun hempty => ?_) ?_
    · rw [List.isEmpty_iff.mp hempty]
    · simp [StepDraft.set, readSlotTable, hslots, Except.map]
  have hfieldChildren : readFields (childrenValue children)
      ⟨some call, inputs, outputs, slots, none, none⟩ =
        .ok ⟨some call, inputs, outputs, slots, children, none⟩ := by
    cases children with
    | none => simp [childrenValue, readFields]
    | some steps =>
        have hsteps := hchildren steps rfl
        simp [childrenValue, readFields, StepDraft.set, childrenSlot, Value.isNull,
          readSequence, hsteps, Except.map]
  simp only [toValue, read, hfirst, readFields_append, hfieldIn, hfieldOut, hfieldSlots,
    hfieldChildren, Except.bind]
  cases collectPath with
  | none =>
      simp only [readFields]
      rfl
  | some path =>
      simp only [readFields, StepDraft.set]
      rfl

@[simp] theorem isNull_toValue (s : Step) : s.toValue.isNull = false := by
  obtain ⟨call, inputs, outputs, slots, children, collectPath⟩ := s
  simp only [toValue, Value.isNull]

end Step

/-! ## §4. Normal steps -/

/-- A step whose binding maps are normal, and those of the steps in it. -/
inductive Step.IsNormal : Step → Prop where
  | mk {s : Step} (inputs : s.inputs.IsNormal) (outputs : s.outputs.IsNormal)
      (slots : ∀ entry ∈ s.slots, ∀ t ∈ entry.2, t.IsNormal)
      (children : ∀ steps, s.children = some steps → ∀ t ∈ steps, t.IsNormal) : s.IsNormal

mutual
/-- A normal step survives. -/
theorem Step.IsNormal.read_toValue : (s : Step) → s.IsNormal → Step.read s.toValue = .ok s
  | ⟨_, _, _, slots, children, _⟩, .mk hin hout hslots hchildren => by
      refine Step.read_toValue hin.read_toMembers hout.read_toMembers ?_ ?_
      · exact Step.readSlots_slotValues slots hslots
      · intro steps h
        cases h
        exact Step.readItems_values steps (hchildren steps rfl)
/-- The slots of a normal step survive. -/
theorem Step.readSlots_slotValues : (slots : List (String × List Step)) →
    (∀ entry ∈ slots, ∀ t ∈ entry.2, t.IsNormal) →
      Step.readSlots (Step.slotValues slots) = .ok slots
  | [], _ => by simp [Step.slotValues, Step.readSlots]
  | (name, steps) :: rest, h => by
      have hfirst := Step.readItems_values steps (h (name, steps) List.mem_cons_self)
      have hrest := Step.readSlots_slotValues rest fun e he => h e (List.mem_cons_of_mem _ he)
      simp [Step.slotValues, Step.readSlots, Step.readSequence, hfirst, hrest, Except.map]
/-- A sequence of normal steps survives. -/
theorem Step.readItems_values : (steps : List Step) → (∀ t ∈ steps, t.IsNormal) →
    Step.readItems (Step.values steps) = .ok steps
  | [], _ => by simp [Step.values, Step.readItems]
  | s :: rest, h => by
      have hfirst := Step.IsNormal.read_toValue s (h s List.mem_cons_self)
      have hrest := Step.readItems_values rest fun t ht => h t (List.mem_cons_of_mem _ ht)
      simp [Step.values, Step.readItems, hfirst, hrest, Except.map]
end

mutual
/-- A normal step is one in every order of its slots. -/
theorem Step.IsNormal.of_alike {s t : Step} : s.Alike t → s.IsNormal → t.IsNormal
  | .mk hslots hchildren, .mk hin hout hs hc =>
      .mk hin hout (Step.SlotsAlike.isNormal hslots hs) (Step.ChildrenAlike.isNormal hchildren hc)
theorem Step.SlotsAlike.isNormal {slots slots' : SlotMap} : Step.SlotsAlike slots slots' →
    (∀ entry ∈ slots, ∀ t ∈ entry.2, t.IsNormal) → ∀ entry ∈ slots', ∀ t ∈ entry.2, t.IsNormal
  | .nil, h => h
  | .cons name hsteps hrest, h => by
      have hfirst := Step.ListAlike.isNormal hsteps (h _ List.mem_cons_self)
      have hothers := Step.SlotsAlike.isNormal hrest fun e he => h e (List.mem_cons_of_mem _ he)
      intro entry hentry
      rcases List.mem_cons.mp hentry with rfl | hmem
      · exact hfirst
      · exact hothers entry hmem
  | .swap first second rest _, h => fun entry hentry =>
      h entry ((List.Perm.swap first second rest).mem_iff.mp hentry)
  | .trans hst htu, h => Step.SlotsAlike.isNormal htu (Step.SlotsAlike.isNormal hst h)
theorem Step.ChildrenAlike.isNormal {children children' : Option (List Step)} :
    Step.ChildrenAlike children children' →
    (∀ steps, children = some steps → ∀ t ∈ steps, t.IsNormal) →
      ∀ steps, children' = some steps → ∀ t ∈ steps, t.IsNormal
  | .none, h => h
  | .some hsteps, h => by
      intro steps hsome
      cases hsome
      exact Step.ListAlike.isNormal hsteps (h _ rfl)
theorem Step.ListAlike.isNormal {steps steps' : List Step} : Step.ListAlike steps steps' →
    (∀ t ∈ steps, t.IsNormal) → ∀ t ∈ steps', t.IsNormal
  | .nil, h => h
  | .cons hstep hrest, h => by
      have hfirst := Step.IsNormal.of_alike hstep (h _ List.mem_cons_self)
      have hothers := Step.ListAlike.isNormal hrest fun t ht => h t (List.mem_cons_of_mem _ ht)
      intro t ht
      rcases List.mem_cons.mp ht with rfl | hmem
      · exact hfirst
      · exact hothers t hmem
end

/-! ## §5. What was read is normal -/

/-- A draft whose parts are normal. -/
structure StepDraft.IsNormal (d : StepDraft) : Prop where
  inputs : d.inputs.IsNormal
  outputs : d.outputs.IsNormal
  slots : ∀ entry ∈ d.slots, ∀ t ∈ entry.2, t.IsNormal
  children : ∀ steps, d.children = some steps → ∀ t ∈ steps, t.IsNormal

namespace StepDraft

theorem IsNormal.blank : blank.IsNormal :=
  ⟨.empty, .empty, nofun, nofun⟩

/-- A field whose value was read keeps the draft normal. -/
theorem IsNormal.set {d d' : StepDraft} (hd : d.IsNormal) {name : String} {v : Value}
    {sequence : Unit → Except Mismatch (List Step)} {slots : Unit → Except Mismatch SlotMap}
    (hsequence : ∀ steps, sequence () = .ok steps → ∀ t ∈ steps, t.IsNormal)
    (hslots : ∀ table, slots () = .ok table → ∀ entry ∈ table, ∀ t ∈ entry.2, t.IsNormal)
    (h : d.set name v sequence slots = .ok d') : d'.IsNormal := by
  unfold StepDraft.set at h
  -- one case for each field; null is a case of its own where it may stand for nothing
  repeat' split at h
  · obtain ⟨call, -, rfl⟩ := map_eq_ok_iff.mp h
    exact { hd with }
  · obtain ⟨b, hb, rfl⟩ := map_eq_ok_iff.mp h
    exact { hd with inputs := Bindings.isNormal_of_read hb }
  · obtain ⟨b, hb, rfl⟩ := map_eq_ok_iff.mp h
    exact { hd with outputs := Bindings.isNormal_of_read hb }
  · obtain ⟨table, htable, rfl⟩ := map_eq_ok_iff.mp h
    exact { hd with slots := hslots table htable }
  · cases h
    exact { hd with children := nofun }
  · obtain ⟨steps, hsteps, rfl⟩ := map_eq_ok_iff.mp h
    refine { hd with children := fun steps' h' => ?_ }
    cases h'
    exact hsequence steps hsteps
  · cases h
    exact { hd with }
  · obtain ⟨path, -, rfl⟩ := map_eq_ok_iff.mp h
    exact { hd with }
  · cases h
    exact hd

theorem IsNormal.finish {d : StepDraft} (hd : d.IsNormal) {s : Step} (h : d.finish = .ok s) :
    s.IsNormal := by
  obtain ⟨call, inputs, outputs, slots, children, collectPath⟩ := d
  cases call with
  | none => cases h
  | some call =>
      cases h
      exact .mk hd.inputs hd.outputs hd.slots hd.children

end StepDraft

mutual
/-- A step. -/
theorem Step.read_isNormal (v : Value) {s : Step} (h : Step.read v = .ok s) : s.IsNormal := by
  match v with
  | .obj members =>
    simp only [Step.read] at h
    cases hfields : Step.readFields members .blank with
    | error e =>
        rw [hfields] at h
        cases h
    | ok d =>
        rw [hfields] at h
        exact (Step.readFields_isNormal members .blank hfields).finish h
  | .arr items =>
    simp only [Step.read] at h
    split at h
    · cases h
    · split at h
      · cases h
      · next d complete hpositions =>
          split at h
          · exact (Step.readPositions_isNormal _ items .blank hpositions).finish h
          · cases h
  | .null | .bool _ | .num _ | .str _ => simp [Step.read] at h
/-- The fields of a step given as an object. -/
theorem Step.readFields_isNormal (members : List (String × Value)) {d d' : StepDraft}
    (hd : d.IsNormal) (h : Step.readFields members d = .ok d') : d'.IsNormal := by
  match members with
  | [] =>
    simp only [Step.readFields] at h
    cases h
    exact hd
  | (name, v) :: rest =>
    simp only [Step.readFields] at h
    split at h
    · cases h
    · next mid hmid =>
        refine Step.readFields_isNormal rest (hd.set ?_ ?_ hmid) h
        · exact fun steps hsteps => Step.readSequence_isNormal v hsteps
        · exact fun table htable => Step.readSlotTable_isNormal v htable
/-- The fields of a step given as a list. -/
theorem Step.readPositions_isNormal (names : List String) (items : List Value)
    {d d' : StepDraft} {complete : Bool} (hd : d.IsNormal)
    (h : Step.readPositions names items d = .ok (d', complete)) : d'.IsNormal := by
  match names, items with
  | _, [] =>
    simp only [Step.readPositions] at h
    cases h
    exact hd
  | [], _ :: _ =>
    simp only [Step.readPositions] at h
    cases h
    exact hd
  | name :: names, v :: rest =>
    simp only [Step.readPositions] at h
    split at h
    · cases h
    · next mid hmid =>
        refine Step.readPositions_isNormal names rest (hd.set ?_ ?_ hmid) h
        · exact fun steps hsteps => Step.readSequence_isNormal v hsteps
        · exact fun table htable => Step.readSlotTable_isNormal v htable
/-- A sequence. -/
theorem Step.readSequence_isNormal (v : Value) {steps : List Step}
    (h : Step.readSequence v = .ok steps) : ∀ t ∈ steps, t.IsNormal := by
  match v with
  | .arr items =>
    simp only [Step.readSequence] at h
    exact Step.readItems_isNormal items h
  | .null | .bool _ | .num _ | .str _ | .obj _ => simp [Step.readSequence] at h
/-- The items of a sequence. -/
theorem Step.readItems_isNormal (items : List Value) {steps : List Step}
    (h : Step.readItems items = .ok steps) : ∀ t ∈ steps, t.IsNormal := by
  match items with
  | [] =>
    simp only [Step.readItems] at h
    cases h
    nofun
  | v :: rest =>
    simp only [Step.readItems] at h
    split at h
    · exact Step.readItems_isNormal rest h
    · split at h
      · cases h
      · next s hs =>
          obtain ⟨others, hothers, rfl⟩ := map_eq_ok_iff.mp h
          intro t ht
          rcases List.mem_cons.mp ht with rfl | hmem
          · exact Step.read_isNormal v hs
          · exact Step.readItems_isNormal rest hothers t hmem
/-- A slot table. -/
theorem Step.readSlotTable_isNormal (v : Value) {table : SlotMap}
    (h : Step.readSlotTable v = .ok table) : ∀ entry ∈ table, ∀ t ∈ entry.2, t.IsNormal := by
  match v with
  | .obj members =>
    simp only [Step.readSlotTable] at h
    exact Step.readSlots_isNormal members h
  | .null | .bool _ | .num _ | .str _ | .arr _ => simp [Step.readSlotTable] at h
/-- The slots of a slot table. -/
theorem Step.readSlots_isNormal (members : List (String × Value)) {table : SlotMap}
    (h : Step.readSlots members = .ok table) : ∀ entry ∈ table, ∀ t ∈ entry.2, t.IsNormal := by
  match members with
  | [] =>
    simp only [Step.readSlots] at h
    cases h
    nofun
  | (name, v) :: rest =>
    simp only [Step.readSlots] at h
    split at h
    · cases h
    · next steps hsteps =>
        obtain ⟨others, hothers, rfl⟩ := map_eq_ok_iff.mp h
        intro entry hentry
        rcases List.mem_cons.mp hentry with rfl | hmem
        · exact Step.readSequence_isNormal v hsteps
        · exact Step.readSlots_isNormal rest hothers entry hmem
end

namespace Document

theorem steps_isNormal {v : Value} {d : Document} (h : ofValue v = .ok d) :
    ∀ s ∈ d.steps, s.IsNormal := by
  unfold ofValue at h
  repeat' split at h
  all_goals cases h
  · nofun
  · nofun
  · nofun
  · next hitems => exact Step.readItems_isNormal _ hitems

/-- A document of normal steps survives. -/
theorem ofValue_toValue {d : Document} (h : ∀ s ∈ d.steps, s.IsNormal) :
    ofValue d.toValue = .ok d := by
  simp [ofValue, toValue, Dict.get?, Step.readItems_values d.steps h]

/-- Documents that are the same are written as the same values. -/
theorem Alike.writtenAs_iff {d d' : Document} (h : d.Alike d') (w : Value) :
    d'.WrittenAs w ↔ d.WrittenAs w := by
  constructor
  · rintro ⟨e, he, hw⟩
    exact ⟨e, Step.ListAlike.trans h he, hw⟩
  · rintro ⟨e, he, hw⟩
    exact ⟨e, Step.ListAlike.trans h.symm he, hw⟩

/-- **What was read reads back.**  A document that any value stands for is, up to the order of
its slots, the document that each value it is written as stands for: the same steps with the
same bindings, spreads, slots, children and collect paths at every depth.  What is read back is
written as the same values again, so writing what was read changes nothing the second time.  The
slots held in one order are read back in that order. -/
theorem toValue_reads_back {v : Value} {d : Document} (h : ofValue v = .ok d) :
    (∀ w, d.WrittenAs w → ∃ d', ofValue w = .ok d' ∧ d.Alike d' ∧
      ∀ w', d'.WrittenAs w' ↔ d.WrittenAs w') ∧
    ofValue d.toValue = .ok d ∧ (ofValue d.toValue).map toValue = .ok d.toValue := by
  have hnormal : ∀ s ∈ d.steps, s.IsNormal := steps_isNormal h
  have hread : ofValue d.toValue = .ok d := ofValue_toValue hnormal
  refine ⟨?_, hread, by rw [hread]; rfl⟩
  rintro w ⟨d', halike, rfl⟩
  have hnormal' : ∀ s ∈ d'.steps, s.IsNormal := Step.ListAlike.isNormal halike hnormal
  exact ⟨d', ofValue_toValue hnormal', halike, halike.writtenAs_iff⟩

/-- A document written in roundabout ways: an empty item, a step as a list, spreads after an
entry with something else among them, an optional entry inside another one, and two slots. -/
def roundabout : Value :=
  .obj [("compose", .arr [.null,
    .arr [.str "t",
      .obj [("a", .obj [(optionalFlag, .bool true),
          ("value", .obj [("value", .null), (optionalFlag, .bool true)])]),
        (spreadKey, .arr [.str "other", .obj [("pick", .arr [.str "x"]), ("source", .str "$.o")]])]],
    .obj [("children", .null),
      ("slots", .obj [("then", .arr [.null, .arr [.str "f"]]), ("else", .arr [.arr [.str "e"]])]),
      ("call", .str "g")]])]

/-- The same document, written straight and with the slots of its last step the other way
round. -/
def straight : Value :=
  .obj [("compose", .arr [
    .obj [("call", .str "t"),
      ("in", .obj [(spreadKey, .arr [.obj [("source", .str "$.o"), ("pick", .arr [.str "x"])]]),
        ("a", .obj [(optionalFlag, .bool true),
          ("value", .obj [("value", .null), (optionalFlag, .bool true)])])])],
    .obj [("call", .str "g"),
      ("slots", .obj [("else", .arr [.obj [("call", .str "e")]]),
        ("then", .arr [.obj [("call", .str "f")]])])]])]

/-- Reading straightens it; it may be written with its slots the other way round, and reads back
from there too. -/
theorem roundabout_reads_back :
    ∃ d, ofValue roundabout = .ok d ∧ d.toValue ≠ roundabout ∧ ofValue d.toValue = .ok d ∧
      d.toValue ≠ straight ∧ d.WrittenAs straight ∧
      ∃ d', ofValue straight = .ok d' ∧ d.Alike d' ∧ ∀ w, d'.WrittenAs w ↔ d.WrittenAs w := by
  have hreads : ∃ d, ofValue roundabout = .ok d := ⟨_, rfl⟩
  have hstraight : ∃ d', ofValue straight = .ok d' := ⟨_, rfl⟩
  obtain ⟨d, hd⟩ := hreads
  obtain ⟨d', hd'⟩ := hstraight
  have hwritten : d.WrittenAs straight := by
    refine ⟨d', ?_, ?_⟩
    · cases hd
      cases hd'
      exact .cons (.refl _) (.cons (.mk (.swap _ _ [] (by decide)) .none) .nil)
    · cases hd'
      decide
  have hback := toValue_reads_back hd
  refine ⟨d, hd, ?_, hback.2.1, ?_, hwritten, hback.1 straight hwritten⟩
  · cases hd
    decide
  · cases hd
    decide

end Document

end StepFlow
