import StepFlow.Document.Bindings

/-
  StepFlow.Document.Step
  ──────────────────────
  Steps: one function call each, with nested sequences of steps in slots.

  A step has named slots and one default sequence, its children.  The slot
  names `children` and `body` stand for the same slot wherever only one of the
  two is there.
-/

namespace StepFlow

/-- One function call of a document. -/
structure Step where
  /-- The id of the function. -/
  call : String
  /-- What the function gets. -/
  inputs : Bindings
  /-- What goes back into the state. -/
  outputs : Bindings
  /-- Named nested sequences, in any order. -/
  slots : List (String × List Step)
  /-- The default nested sequence. -/
  children : Option (List Step)
  /-- What a loop collects from each round. -/
  collectPath : Option String
  deriving Inhabited, Repr

/-- Sequences by slot name.  The order in which the slots are held means nothing. -/
abbrev SlotMap := Dict (List Step)

/-- The name of the default slot. -/
def childrenSlot : String := "children"

/-- The other name of the default slot. -/
def bodySlot : String := "body"

namespace Step

/-- A step that only calls a function. -/
def ofCall (call : String) : Step :=
  ⟨call, .empty, .empty, [], none, none⟩

/-- All slots of a step: the children first, overridden by a named slot of that name; a
`body` doubles as the children if there are none. -/
def slotMap (s : Step) : SlotMap :=
  let own : SlotMap := match s.children with
    | some steps => [(childrenSlot, steps)]
    | none => []
  let all := Dict.insertAll own s.slots
  if Dict.contains all childrenSlot then all
  else match Dict.get? all bodySlot with
    | some body => Dict.insert all childrenSlot body
    | none => all

end Step

namespace SlotMap

/-- The sequence of a slot, `children` and `body` standing in for each other. -/
def resolve (slots : SlotMap) (name : String) : Option (List Step) :=
  match Dict.get? slots name with
  | some steps => some steps
  | none =>
      if name = childrenSlot then Dict.get? slots bodySlot
      else if name = bodySlot then Dict.get? slots childrenSlot
      else none

/-- Whether a slot has at least one step. -/
def has (slots : SlotMap) (name : String) : Bool :=
  match resolve slots name with
  | some steps => !steps.isEmpty
  | none => false

theorem has_eq_false_iff (slots : SlotMap) (name : String) :
    has slots name = false ↔ (resolve slots name).getD [] = [] := by
  unfold has
  cases resolve slots name with
  | none => simp
  | some steps => simp

theorem has_iff (slots : SlotMap) (name : String) :
    has slots name = true ↔ (resolve slots name).getD [] ≠ [] := by
  rw [Ne, ← has_eq_false_iff, Bool.not_eq_false]

end SlotMap

/-! ## §1. Equality

A slot table has no order: it is compared, as it is looked up, by the names in it.  So the
equality of steps is `Step.Alike`.  The equality of the lists that hold the slots is finer; it is
decided as well (`Step.same`), for steps that were held in one order all along. -/

mutual
/-- Whether two steps are the same, in whatever order they hold their slots. -/
inductive Step.Alike : Step → Step → Prop where
  | mk {call : String} {inputs outputs : Bindings} {slots slots' : SlotMap}
      {children children' : Option (List Step)} {collectPath : Option String}
      (hslots : Step.SlotsAlike slots slots') (hchildren : Step.ChildrenAlike children children') :
      Step.Alike ⟨call, inputs, outputs, slots, children, collectPath⟩
        ⟨call, inputs, outputs, slots', children', collectPath⟩
/-- Whether two slot tables have the same slots. -/
inductive Step.SlotsAlike : SlotMap → SlotMap → Prop where
  | nil : Step.SlotsAlike [] []
  | cons (name : String) {steps steps' : List Step} {rest rest' : SlotMap}
      (hsteps : Step.ListAlike steps steps') (hrest : Step.SlotsAlike rest rest') :
      Step.SlotsAlike ((name, steps) :: rest) ((name, steps') :: rest')
  -- one table holds a name once; a list that repeats one is left in its order
  | swap (first second : String × List Step) (rest : SlotMap) (hne : first.1 ≠ second.1) :
      Step.SlotsAlike (first :: second :: rest) (second :: first :: rest)
  | trans {s t u : SlotMap} (h : Step.SlotsAlike s t) (h' : Step.SlotsAlike t u) :
      Step.SlotsAlike s u
/-- Whether two default sequences are the same. -/
inductive Step.ChildrenAlike : Option (List Step) → Option (List Step) → Prop where
  | none : Step.ChildrenAlike none none
  | some {steps steps' : List Step} (h : Step.ListAlike steps steps') :
      Step.ChildrenAlike (some steps) (some steps')
/-- Whether two sequences are the same, step by step. -/
inductive Step.ListAlike : List Step → List Step → Prop where
  | nil : Step.ListAlike [] []
  | cons {s s' : Step} {rest rest' : List Step} (h : Step.Alike s s')
      (hrest : Step.ListAlike rest rest') : Step.ListAlike (s :: rest) (s' :: rest')
end

mutual
theorem Step.Alike.refl : (s : Step) → Step.Alike s s
  | ⟨_, _, _, slots, children, _⟩ =>
      .mk (Step.SlotsAlike.refl slots) (Step.ChildrenAlike.refl children)
theorem Step.SlotsAlike.refl : (slots : SlotMap) → Step.SlotsAlike slots slots
  | [] => .nil
  | (name, steps) :: rest => .cons name (Step.ListAlike.refl steps) (Step.SlotsAlike.refl rest)
theorem Step.ChildrenAlike.refl : (children : Option (List Step)) →
    Step.ChildrenAlike children children
  | none => .none
  | some steps => .some (Step.ListAlike.refl steps)
theorem Step.ListAlike.refl : (steps : List Step) → Step.ListAlike steps steps
  | [] => .nil
  | s :: rest => .cons (Step.Alike.refl s) (Step.ListAlike.refl rest)
end

mutual
theorem Step.Alike.symm {s t : Step} : Step.Alike s t → Step.Alike t s
  | .mk hslots hchildren => .mk hslots.symm hchildren.symm
theorem Step.SlotsAlike.symm {s t : SlotMap} : Step.SlotsAlike s t → Step.SlotsAlike t s
  | .nil => .nil
  | .cons name hsteps hrest => .cons name hsteps.symm hrest.symm
  | .swap first second rest hne => .swap second first rest hne.symm
  | .trans h h' => .trans h'.symm h.symm
theorem Step.ChildrenAlike.symm {s t : Option (List Step)} :
    Step.ChildrenAlike s t → Step.ChildrenAlike t s
  | .none => .none
  | .some h => .some h.symm
theorem Step.ListAlike.symm {s t : List Step} : Step.ListAlike s t → Step.ListAlike t s
  | .nil => .nil
  | .cons h hrest => .cons h.symm hrest.symm
end

mutual
theorem Step.Alike.trans {s t u : Step} : Step.Alike s t → Step.Alike t u → Step.Alike s u
  | .mk hslots hchildren, .mk hslots' hchildren' =>
      .mk (.trans hslots hslots') (hchildren.trans hchildren')
theorem Step.ChildrenAlike.trans {s t u : Option (List Step)} :
    Step.ChildrenAlike s t → Step.ChildrenAlike t u → Step.ChildrenAlike s u
  | .none, .none => .none
  | .some h, .some h' => .some (h.trans h')
theorem Step.ListAlike.trans {s t u : List Step} :
    Step.ListAlike s t → Step.ListAlike t u → Step.ListAlike s u
  | .nil, .nil => .nil
  | .cons h hrest, .cons h' hrest' => .cons (h.trans h') (hrest.trans hrest')
end

mutual
/-- Whether two steps are the same and hold their slots in the same order. -/
def Step.same : Step → Step → Bool
  | ⟨c, i, o, s, ch, p⟩, ⟨c', i', o', s', ch', p'⟩ =>
      c == c' && i == i' && o == o' && Step.sameSlots s s' && Step.sameChildren ch ch' && p == p'
/-- Whether two lists hold the same slots in the same order. -/
def Step.sameSlots : List (String × List Step) → List (String × List Step) → Bool
  | [], [] => true
  | (k, a) :: as, (l, b) :: bs => k == l && Step.sameList a b && Step.sameSlots as bs
  | _, _ => false
/-- Whether two default sequences are the same, with their slots in the same order. -/
def Step.sameChildren : Option (List Step) → Option (List Step) → Bool
  | none, none => true
  | some a, some b => Step.sameList a b
  | _, _ => false
/-- Whether two sequences are the same, with their slots in the same order. -/
def Step.sameList : List Step → List Step → Bool
  | [], [] => true
  | a :: as, b :: bs => Step.same a b && Step.sameList as bs
  | _, _ => false
end

mutual
/-- `same` decides equality. -/
theorem Step.same_iff (a b : Step) : a.same b = true ↔ a = b := by
  match a, b with
  | ⟨c, i, o, s, ch, p⟩, ⟨c', i', o', s', ch', p'⟩ =>
    simp [Step.same, Step.sameSlots_iff s s', Step.sameChildren_iff ch ch', and_assoc]
/-- `sameSlots` decides equality. -/
theorem Step.sameSlots_iff (as bs : List (String × List Step)) :
    Step.sameSlots as bs = true ↔ as = bs := by
  match as, bs with
  | [], [] => simp [Step.sameSlots]
  | [], _ :: _ => simp [Step.sameSlots]
  | _ :: _, [] => simp [Step.sameSlots]
  | (k, a) :: as, (l, b) :: bs =>
    simp [Step.sameSlots, Step.sameList_iff a b, Step.sameSlots_iff as bs]
/-- `sameChildren` decides equality. -/
theorem Step.sameChildren_iff (a b : Option (List Step)) :
    Step.sameChildren a b = true ↔ a = b := by
  match a, b with
  | none, none => simp [Step.sameChildren]
  | none, some _ => simp [Step.sameChildren]
  | some _, none => simp [Step.sameChildren]
  | some a, some b => simp [Step.sameChildren, Step.sameList_iff a b]
/-- `sameList` decides equality. -/
theorem Step.sameList_iff (as bs : List Step) : Step.sameList as bs = true ↔ as = bs := by
  match as, bs with
  | [], [] => simp [Step.sameList]
  | [], _ :: _ => simp [Step.sameList]
  | _ :: _, [] => simp [Step.sameList]
  | a :: as, b :: bs => simp [Step.sameList, Step.same_iff a b, Step.sameList_iff as bs]
end

instance : DecidableEq Step := fun a b =>
  decidable_of_iff (a.same b = true) (Step.same_iff a b)

/-! ## §2. Reading -/

/-- The fields of a step read so far. -/
structure StepDraft where
  call : Option String
  inputs : Bindings
  outputs : Bindings
  slots : SlotMap
  children : Option (List Step)
  collectPath : Option String

namespace StepDraft

/-- Nothing read yet. -/
def blank : StepDraft := ⟨none, .empty, .empty, [], none, none⟩

/-- The fields of a step, in the order in which a list gives them. -/
def fieldNames : List String := ["call", "in", "out", "slots", "children", "collectPath"]

/-- Read one field.  `sequence` and `slots` say what the value is as a sequence and as a
slot table; other names are ignored. -/
def set (d : StepDraft) (name : String) (v : Value)
    (sequence : Unit → Except Mismatch (List Step))
    (slots : Unit → Except Mismatch SlotMap) : Except Mismatch StepDraft :=
  if name = "call" then (readText v).map fun s => { d with call := some s }
  else if name = "in" then (Bindings.read v).map fun b => { d with inputs := b }
  else if name = "out" then (Bindings.read v).map fun b => { d with outputs := b }
  else if name = "slots" then (slots ()).map fun t => { d with slots := t }
  else if name = "children" then
    if v.isNull then .ok { d with children := none }
    else (sequence ()).map fun steps => { d with children := some steps }
  else if name = "collectPath" then
    if v.isNull then .ok { d with collectPath := none }
    else (readText v).map fun s => { d with collectPath := some s }
  else .ok d

/-- The step, once every field was read; a call there must be. -/
def finish (d : StepDraft) : Except Mismatch Step :=
  match d.call with
  | some call => .ok ⟨call, d.inputs, d.outputs, d.slots, d.children, d.collectPath⟩
  | none => .error (.missingField "call")

end StepDraft

mutual
/-- Read a step: an object of fields, or a list of them in the fixed order. -/
def Step.read : Value → Except Mismatch Step
  | .obj members => (Step.readFields members .blank).bind StepDraft.finish
  | .arr items =>
      if items.isEmpty then .error .emptyStep
      else
        match Step.readPositions StepDraft.fieldNames items .blank with
        | .error e => .error e
        | .ok (draft, complete) =>
            if complete then draft.finish else .error (.tooManyFields items.length)
  | v => .error (.unexpected v .step)
/-- Read the fields of a step given as an object. -/
def Step.readFields : List (String × Value) → StepDraft → Except Mismatch StepDraft
  | [], d => .ok d
  | (name, v) :: rest, d =>
      match d.set name v (fun _ => Step.readSequence v) (fun _ => Step.readSlotTable v) with
      | .error e => .error e
      | .ok d => Step.readFields rest d
/-- Read the fields of a step given as a list; also tells whether there were not too many. -/
def Step.readPositions :
    List String → List Value → StepDraft → Except Mismatch (StepDraft × Bool)
  | _, [], d => .ok (d, true)
  | [], _ :: _, d => .ok (d, false)
  | name :: names, v :: rest, d =>
      match d.set name v (fun _ => Step.readSequence v) (fun _ => Step.readSlotTable v) with
      | .error e => .error e
      | .ok d => Step.readPositions names rest d
/-- Read a sequence. -/
def Step.readSequence : Value → Except Mismatch (List Step)
  | .arr items => Step.readItems items
  | v => .error (.unexpected v .sequence)
/-- Read the items of a sequence; null items are dropped. -/
def Step.readItems : List Value → Except Mismatch (List Step)
  | [] => .ok []
  | v :: rest =>
      if v.isNull then Step.readItems rest
      else
        match Step.read v with
        | .error e => .error e
        | .ok step => (Step.readItems rest).map (step :: ·)
/-- Read a slot table. -/
def Step.readSlotTable : Value → Except Mismatch SlotMap
  | .obj members => Step.readSlots members
  | v => .error (.unexpected v .map)
/-- Read the slots of a slot table. -/
def Step.readSlots : List (String × Value) → Except Mismatch SlotMap
  | [] => .ok []
  | (name, v) :: rest =>
      match Step.readSequence v with
      | .error e => .error e
      | .ok steps => (Step.readSlots rest).map ((name, steps) :: ·)
end

/-! ## §3. Writing -/

mutual
/-- A step as a value; what is empty or not set is left out. -/
def Step.toValue : Step → Value
  | ⟨call, inputs, outputs, slots, children, collectPath⟩ =>
      .obj (("call", .str call) ::
        ((if inputs.isEmpty then [] else [("in", .obj inputs.toMembers)]) ++
        ((if outputs.isEmpty then [] else [("out", .obj outputs.toMembers)]) ++
        ((if slots.isEmpty then [] else [("slots", .obj (Step.slotValues slots))]) ++
        (Step.childrenValue children ++
        (match collectPath with
          | some path => [("collectPath", .str path)]
          | none => []))))))
/-- A slot table as members, in the order in which the table holds its slots.  The table may
hold them in any other one as well (`Step.Alike`), and is then written so. -/
def Step.slotValues : List (String × List Step) → List (String × Value)
  | [] => []
  | (name, steps) :: rest => (name, .arr (Step.values steps)) :: Step.slotValues rest
/-- The member for the default sequence. -/
def Step.childrenValue : Option (List Step) → List (String × Value)
  | none => []
  | some steps => [(childrenSlot, .arr (Step.values steps))]
/-- A sequence as a list of values. -/
def Step.values : List Step → List Value
  | [] => []
  | s :: rest => s.toValue :: Step.values rest
end

end StepFlow
