import StepFlow.Builtin
import StepFlow.Proofs.Cancellation
import StepFlow.Proofs.Inlining
import StepFlow.Proofs.Performing

/-
  StepFlow.Proofs.Recovery
  ────────────────────────
  How a step recovers from failures.

  `protect` runs up to three slots of its step.  `Handled` and `Concluded` are the
  rules for what comes after the children: `catch` takes the place of a failure,
  and `finally` follows in any case.  `protectedStep_recovers`: the runs of a step
  that calls `protect` are those that the rules give, with every slot started from
  the state of the step.

  Two consequences show the limits of `finally`.  Its final state is written over
  the result as a whole, so what it left alone goes back to how the step found it
  (`finally_leaves_iff`); and it is a slot like any other, so it starts unless the
  run was cancelled by then (`finally_starts_unless_cancelled`).
-/

namespace StepFlow.Flow

/-! ## §1. The rules -/

/-- The structured form of a failure.  A flow error has it already; any other failure is an
unexpected error that says what the failure says, if that is anything. -/
def normalized : Fault → FlowError
  | .flow e => e
  | e =>
      ⟨"unexpected_error",
        if Text.isBlankText e.message then "Unexpected error" else e.message, none⟩

/-- A structured failure as a slot is shown it: its code, its message, and its data if it has
any. -/
def shown (e : FlowError) : Value :=
  .obj (("code", .str e.code) :: ("message", .str e.message) ::
    match e.data with
    | some data => [("data", data)]
    | none => [])

/-- The slot variables of `catch`. -/
def catchVars (e : Fault) : State :=
  [("phase", .str "catch"), ("error", shown (normalized e))]

/-- The slot variables of `finally`; the error is there if one is still to be raised. -/
def finallyVars : Outcome State → State
  | .error (.fault e) => [("phase", .str "finally"), ("error", shown (normalized e))]
  | _ => [("phase", .str "finally")]

/-- A failure in its structured form; all else as it is. -/
def structured {α : Type} : Outcome α → Outcome α
  | .error (.fault e) => .error (.fault (.flow (normalized e)))
  | r => r

section Rules

variable (caller : Caller) (slots : SlotMap) (state : State)

/-- From how the children ended to what `finally` follows on. -/
inductive Handled : Outcome State → Context → Outcome State → Context → Prop where
  /-- A state stays. -/
  | done (s : State) (c : Context) : Handled (.ok s) c (.ok s) c
  /-- A loop signal stays. -/
  | signalled (s : Signal) (c : Context) :
      Handled (.error (.signal s)) c (.error (.signal s)) c
  /-- A failure stays if there is no `catch`. -/
  | uncaught (e : Fault) (c : Context) (hcatch : SlotMap.has slots "catch" = false) :
      Handled (.error (.fault e)) c (.error (.fault e)) c
  /-- A failure is told and shown to `catch`, and what comes of that takes its place. -/
  | caught {e : Fault} {c d : Context} {r : Outcome State}
      (hcatch : SlotMap.has slots "catch" = true)
      (hrun : Engine.runSlotFrom caller slots "catch" state
          (catchVars e) (c.record (.noted (.flow (.caught (normalized e).code)))) = some (r, d)) :
      Handled (.error (.fault e)) c r d

/-- From what `finally` follows on to how the step ends. -/
inductive Concluded (p : Outcome State) (c : Context) : Outcome Value → Context → Prop where
  /-- Without a `finally` a state is the result, and an interrupt is raised again. -/
  | plain (hfinally : SlotMap.has slots "finally" = false) :
      Concluded p c ((structured p).map .obj) c
  /-- So it is with one, but for what `finally` writes over a state. -/
  | finished {last : State} {d : Context} (hfinally : SlotMap.has slots "finally" = true)
      (hrun : Engine.runSlotFrom caller slots "finally" state (finallyVars p) c =
        some (.ok last, d)) :
      Concluded p c ((structured p).map fun s => .obj (Dict.insertAll s last)) d
  /-- An interrupt of `finally` comes before everything. -/
  | interrupted {i : Interrupt} {d : Context} (hfinally : SlotMap.has slots "finally" = true)
      (hrun : Engine.runSlotFrom caller slots "finally" state (finallyVars p) c =
        some (.error i, d)) :
      Concluded p c (.error i) d

end Rules

/-! ## §2. The rules are those of `protect` -/

theorem normalized_eq (e : Fault) : normalized e = e.toFlowError := by
  cases e <;> rfl

theorem phaseVars_catch (e : Fault) : phaseVars "catch" (some e.toFlowError) = catchVars e := by
  rw [catchVars, normalized_eq]
  rfl

theorem phaseVars_finally (p : Outcome State) :
    phaseVars "finally" (Settled.ofOutcome p).error? = finallyVars p := by
  match p with
  | .ok s => rfl
  | .error (.signal s) => rfl
  | .error (.fault e) =>
      rw [finallyVars, normalized_eq]
      rfl

theorem conclude_ofOutcome (p : Outcome State) (last : State) :
    (Settled.ofOutcome p).conclude last =
      (structured p).map fun s => .obj (Dict.insertAll s last) := by
  match p with
  | .ok s => rfl
  | .error (.signal s) => rfl
  | .error (.fault e) =>
      rw [structured, normalized_eq]
      rfl

/-- Handing a failure to `catch` makes moves only. -/
theorem Handled.evolves {registry : Registry} {limit : Nat} {slots : SlotMap} {state : State}
    {x p : Outcome State} {c d : Context}
    (h : Handled (Engine.callWithin registry limit) slots state x c p d) :
    ∃ es, c.Evolves es d := by
  cases h with
  | done | signalled | uncaught => exact ⟨[], .refl _⟩
  | caught _ hrun =>
      obtain ⟨es, hes⟩ := Engine.runSlotFrom_evolves registry limit _ _ _ _ _ _ _ hrun
      exact ⟨_, .trans (.report c rfl) hes⟩

end StepFlow.Flow

namespace StepFlow.Engine

open StepFlow.Flow

variable {registry : Registry} {limit : Nat} {c d : Context} {frame : Frame} {rest : List Frame}

/-- A phase runs its slot from the state of the step and settles how that ended. -/
theorem runPhase_eq_some (hframes : c.frames = frame :: rest) (slot phase : String)
    (error : Option FlowError) (r : Outcome Settled) (d : Context) :
    performWithin registry limit (runPhase slot phase error) c = some (r, d) ↔
      ∃ x, runSlotFrom (callWithin registry limit) frame.slots slot frame.state
          (phaseVars phase error) c = some (x, d) ∧ r = .ok (.ofOutcome x) := by
  show performWithin registry limit
    (Action.trySlot slot none (some (phaseVars phase error)) >>= fun x => pure (.ofOutcome x)) c =
      some (r, d) ↔ _
  rw [performWithin_trySlot_bind hframes, Option.bind_eq_some_iff]
  constructor
  · rintro ⟨⟨x, e⟩, hx, hend⟩
    obtain ⟨rfl, rfl⟩ := Run.pure_eq_some.mp hend
    exact ⟨x, hx, rfl⟩
  · rintro ⟨x, hx, rfl⟩
    exact ⟨(x, d), hx, rfl⟩

/-- What `handle` makes of how the children ended. -/
theorem handle_eq_some {site : CallSite} (hframes : c.frames = frame :: rest)
    (hslots : frame.slots = site.slots) (x : Outcome State) (r : Outcome Settled) (d : Context) :
    performWithin registry limit (handle site (.ofOutcome x)) c = some (r, d) ↔
      ∃ p, Handled (callWithin registry limit) site.slots frame.state x c p d ∧
        r = .ok (.ofOutcome p) := by
  match x with
  | .ok s =>
      constructor
      · intro h
        obtain ⟨rfl, rfl⟩ := Run.pure_eq_some.mp h
        exact ⟨.ok s, .done s c, rfl⟩
      · rintro ⟨p, hp, rfl⟩
        cases hp
        rfl
  | .error (.signal s) =>
      constructor
      · intro h
        obtain ⟨rfl, rfl⟩ := Run.pure_eq_some.mp h
        exact ⟨.error (.signal s), .signalled s c, rfl⟩
      · rintro ⟨p, hp, rfl⟩
        cases hp
        rfl
  | .error (.fault e) =>
      show performWithin registry limit (if SlotMap.has site.slots "catch" then do
          Action.report (.caught e.toFlowError.code)
          runPhase "catch" "catch" (some e.toFlowError)
        else pure (.failed e.toFlowError)) c = some (r, d) ↔ _
      cases hcatch : SlotMap.has site.slots "catch" with
      | false =>
          constructor
          · intro h
            obtain ⟨rfl, rfl⟩ := Run.pure_eq_some.mp h
            exact ⟨.error (.fault e), .uncaught e c hcatch, rfl⟩
          · rintro ⟨p, hp, rfl⟩
            cases hp with
            | uncaught => rfl
            | caught hhas _ =>
                rw [hcatch] at hhas
                cases hhas
      | true =>
          -- the report goes into the journal, and the slot runs after it
          let told := c.record (.noted (.flow (.caught (normalized e).code)))
          have htold : told.frames = frame :: rest := hframes
          rw [← normalized_eq]
          show performWithin registry limit (runPhase "catch" "catch" (some (normalized e))) told =
            some (r, d) ↔ _
          rw [runPhase_eq_some htold, hslots, normalized_eq, phaseVars_catch]
          constructor
          · rintro ⟨p, hp, rfl⟩
            exact ⟨p, .caught hcatch hp, rfl⟩
          · rintro ⟨p, hp, rfl⟩
            cases hp with
            | uncaught _ _ hnone =>
                rw [hcatch] at hnone
                cases hnone
            | caught _ hrun => exact ⟨p, hrun, rfl⟩

/-- How the step ends once `catch` had its turn. -/
theorem conclude_eq_some {site : CallSite} (hframes : c.frames = frame :: rest)
    (hslots : frame.slots = site.slots) (p : Outcome State) {r : Outcome Value} :
    performWithin registry limit (do
        let last ←
          if site.hasSlot "finally" then
            Action.runSlot "finally" none
              (some (phaseVars "finally" (Settled.ofOutcome p).error?))
          else pure []
        Action.ofOutcome ((Settled.ofOutcome p).conclude last)) c = some (r, d) ↔
      Concluded (callWithin registry limit) site.slots frame.state p c r d := by
  show performWithin registry limit (if SlotMap.has site.slots "finally" then do
      let last ← Action.runSlot "finally" none
        (some (phaseVars "finally" (Settled.ofOutcome p).error?))
      Action.ofOutcome ((Settled.ofOutcome p).conclude last)
    else Action.ofOutcome ((Settled.ofOutcome p).conclude [])) c = some (r, d) ↔ _
  rw [phaseVars_finally]
  cases hfinally : SlotMap.has site.slots "finally" with
  | false =>
      show performWithin registry limit (Action.ofOutcome ((Settled.ofOutcome p).conclude [])) c =
        some (r, d) ↔ _
      rw [performWithin_ofOutcome, conclude_ofOutcome, Run.pure_eq_some]
      constructor
      · rintro ⟨rfl, rfl⟩
        exact .plain hfinally
      · intro h
        cases h with
        | plain => exact ⟨rfl, rfl⟩
        | finished hhas _ =>
            rw [hfinally] at hhas
            cases hhas
        | interrupted hhas _ =>
            rw [hfinally] at hhas
            cases hhas
  | true =>
      have hslot := runSlot_eq_runSlotFrom hframes (callWithin registry limit) "finally" none
        (some (finallyVars p))
      show performWithin registry limit (do
          let last ← Action.runSlot "finally" none (some (finallyVars p))
          Action.ofOutcome ((Settled.ofOutcome p).conclude last)) c = some (r, d) ↔ _
      rw [performWithin_bind_eq_some, performWithin_runSlot, hslot, hslots]
      simp only [performWithin_ofOutcome, conclude_ofOutcome, Run.pure_eq_some]
      constructor
      · rintro (⟨last, e, hrun, rfl, rfl⟩ | ⟨i, hrun, rfl⟩)
        · exact .finished hfinally hrun
        · exact .interrupted hfinally hrun
      · intro h
        cases h with
        | plain hnone =>
            rw [hfinally] at hnone
            cases hnone
        | finished _ hrun => exact .inl ⟨_, _, hrun, rfl, rfl⟩
        | interrupted _ hrun => exact .inr ⟨_, hrun, rfl⟩

/-- The runs of `protect` are those that the rules give, wherever the function of a step runs. -/
theorem protect_eq_some (input : State) {site : CallSite} (hframes : c.frames = frame :: rest)
    (hslots : frame.slots = site.slots) {r : Outcome Value} :
    performWithin registry limit (protect input site) c = some (r, d) ↔
      ∃ tried c₁ p c₂,
        runSlotFrom (callWithin registry limit) site.slots childrenSlot frame.state
            [("phase", .str "try")] c = some (tried, c₁) ∧
          Handled (callWithin registry limit) site.slots frame.state tried c₁ p c₂ ∧
          Concluded (callWithin registry limit) site.slots frame.state p c₂ r d := by
  show performWithin registry limit (do
      let tried ← runPhase childrenSlot "try" none
      let settled ← handle site tried
      let last ←
        if site.hasSlot "finally" then
          Action.runSlot "finally" none (some (phaseVars "finally" settled.error?))
        else pure []
      Action.ofOutcome (settled.conclude last)) c = some (r, d) ↔ _
  rw [performWithin_bind_iff (runPhase_eq_some hframes childrenSlot "try" none), hslots]
  -- each part finds the frame of the step on top, as the part before it did
  have hnext : ∀ {tried c₁}, runSlotFrom (callWithin registry limit) site.slots childrenSlot
      frame.state [("phase", .str "try")] c = some (tried, c₁) → c₁.frames = frame :: rest := by
    intro tried c₁ htry
    obtain ⟨es, hes⟩ := runSlotFrom_evolves registry limit _ _ _ _ _ _ _ htry
    rw [hes.frames_eq, hframes]
  have hafter : ∀ {tried c₁ p c₂}, runSlotFrom (callWithin registry limit) site.slots childrenSlot
      frame.state [("phase", .str "try")] c = some (tried, c₁) →
      Handled (callWithin registry limit) site.slots frame.state tried c₁ p c₂ →
      c₂.frames = frame :: rest := by
    intro tried c₁ p c₂ htry hhandled
    obtain ⟨es, hes⟩ := hhandled.evolves
    rw [hes.frames_eq, hnext htry]
  constructor
  · rintro ⟨tried, c₁, htry, h⟩
    rw [performWithin_bind_iff (handle_eq_some (hnext htry) hslots tried)] at h
    obtain ⟨p, c₂, hhandled, h⟩ := h
    have hlast := hafter htry hhandled
    exact ⟨tried, c₁, p, c₂, htry, hhandled, (conclude_eq_some hlast hslots p).mp h⟩
  · rintro ⟨tried, c₁, p, c₂, htry, hhandled, hconcluded⟩
    have hlast := hafter htry hhandled
    refine ⟨tried, c₁, htry, ?_⟩
    rw [performWithin_bind_iff (handle_eq_some (hnext htry) hslots tried)]
    exact ⟨p, c₂, hhandled, (conclude_eq_some hlast hslots p).mpr hconcluded⟩

/-! ## §3. The step -/

/-- **Recovery neither loses nor invents interrupts.**  Over any registry, a step whose function
is `protect` ends as the rules say and not otherwise: its children run, a failure of theirs goes
to `catch`, and `finally` concludes.  Every slot starts from the state of the step. -/
theorem protectedStep_recovers {step : Step} {entry : Entry}
    (hget : registry.get? step.call = some entry) (hentry : entry.function = protect)
    (hc : c.mayStart 2 = true) (vars : State) (index : Nat) (state : State)
    {r : Outcome Value} :
    callStep (callWithin registry (limit + 1)) vars index step state c = some (r, d) ↔
      ∃ tried c₁ p c₂ x e,
        runSlotFrom (callWithin registry limit) step.slotMap childrenSlot state
            [("phase", .str "try")] (entryContext entry vars index step state c) =
          some (tried, c₁) ∧
          Handled (callWithin registry limit) step.slotMap state tried c₁ p c₂ ∧
          Concluded (callWithin registry limit) step.slotMap state p c₂ x e ∧
          x.map entry.restrict = r ∧ (e.closeTo c.depth).popFrame = d := by
  let site : CallSite := ⟨step.slotMap, vars, step.collectPath⟩
  have hframes := entryContext_frames entry vars index step state c
  have hslots : (Frame.mk step.slotMap state vars).slots = site.slots := rfl
  rw [callStep_of_mayStart hget hc, hentry, Option.map_eq_some_iff]
  constructor
  · rintro ⟨⟨x, e⟩, hx, hend⟩
    obtain ⟨hr, hd⟩ := Prod.mk.inj hend
    obtain ⟨tried, c₁, p, c₂, htry, hhandled, hconcluded⟩ :=
      (protect_eq_some _ hframes hslots).mp hx
    exact ⟨tried, c₁, p, c₂, x, e, htry, hhandled, hconcluded, hr, hd⟩
  · rintro ⟨tried, c₁, p, c₂, x, e, htry, hhandled, hconcluded, hr, hd⟩
    refine ⟨(x, e), ?_, Prod.ext hr hd⟩
    exact (protect_eq_some _ hframes hslots).mpr ⟨tried, c₁, p, c₂, htry, hhandled, hconcluded⟩

/-- A step that calls `set` with one entry and keeps what it gives back. -/
def setStep (key : String) (expr : Value) : Step :=
  ⟨Builtin.setId, ⟨[], [(key, .required expr)]⟩, ⟨[⟨.str "$", none, false⟩], []⟩, [], none, none⟩

/-- The children fail.  `catch` fails as well, with what it is shown for a code and a message, and
`finally` keeps what it is shown. -/
def failTwice : Step :=
  ⟨tryId, .empty, .empty,
    [("catch", [⟨throwId, ⟨[], [("code", .required (.str "$slot.phase")),
        ("message", .required (.str "$slot.error.code"))]⟩, .empty, [], none, none⟩]),
      ("finally", [setStep "phase" (.str "$slot.phase"), setStep "error" (.str "$slot.error")])],
    some [.ofCall throwId], none⟩

/-- The failure of the children, as `catch` is shown it. -/
def firstFailure : State :=
  [("phase", .str "catch"),
    ("error", .obj [("code", .str "flow_throw"), ("message", .str "Flow throw")])]

/-- The failure of `catch`, as `finally` is shown it. -/
def secondFailure : State :=
  [("phase", .str "finally"),
    ("error", .obj [("code", .str "catch"), ("message", .str "flow_throw")])]

theorem failTwice_runs : ∃ c₁ c₂ c₃,
    runSlotFrom (callWithin .standard 1) failTwice.slotMap childrenSlot [] [("phase", .str "try")]
        (entryContext ⟨tryId, [], protect⟩ [] 0 failTwice [] (.start .info false none)) =
      some (.error (.flow "flow_throw" "Flow throw" none), c₁) ∧
    runSlotFrom (callWithin .standard 1) failTwice.slotMap "catch" [] firstFailure
        (c₁.record (.noted (.flow (.caught "flow_throw")))) =
      some (.error (.flow "catch" "flow_throw" none), c₂) ∧
    runSlotFrom (callWithin .standard 1) failTwice.slotMap "finally" [] secondFailure c₂ =
      some (.ok secondFailure, c₃) :=
  ⟨_, _, _, rfl, rfl, rfl⟩

/-- Both see their phase and the failure before them: `catch` that of the children, and `finally`
that of `catch`, which is what the step ends with. -/
theorem failTwice_recovers : ∃ c₁ c₂ c₃ d,
    runSlotFrom (callWithin .standard 1) failTwice.slotMap childrenSlot [] [("phase", .str "try")]
        (entryContext ⟨tryId, [], protect⟩ [] 0 failTwice [] (.start .info false none)) =
      some (.error (.flow "flow_throw" "Flow throw" none), c₁) ∧
    runSlotFrom (callWithin .standard 1) failTwice.slotMap "catch" [] firstFailure
        (c₁.record (.noted (.flow (.caught "flow_throw")))) =
      some (.error (.flow "catch" "flow_throw" none), c₂) ∧
    runSlotFrom (callWithin .standard 1) failTwice.slotMap "finally" [] secondFailure c₂ =
      some (.ok secondFailure, c₃) ∧
    callStep (callWithin .standard 2) [] 0 failTwice [] (.start .info false none) =
      some (.error (.flow "catch" "flow_throw" none), d) := by
  obtain ⟨c₁, c₂, c₃, htry, hcatch, hlast⟩ := failTwice_runs
  have hget : Registry.standard.get? failTwice.call = some ⟨tryId, [], protect⟩ := rfl
  have hc : (Context.start .info false none).mayStart 2 = true := rfl
  refine ⟨c₁, c₂, c₃, (c₃.closeTo (Context.start .info false none).depth).popFrame, htry, hcatch,
    hlast, ?_⟩
  exact (protectedStep_recovers hget rfl hc [] 0 []).mpr
    ⟨_, c₁, _, c₂, _, c₃, htry, .caught rfl hcatch, .finished rfl hlast, rfl, rfl⟩

/-! ## §4. What `finally` leaves alone -/

theorem runSlotFrom_isNodup {slots : SlotMap} {name : String} {state vars last : State}
    (hstate : State.IsNodup state)
    (h : runSlotFrom (callWithin registry limit) slots name state vars c = some (.ok last, d)) :
    State.IsNodup last := by
  rw [runSlotFrom, Run.unlessCancelled_apply] at h
  split at h
  · cases h
  · obtain ⟨e, hrun, -⟩ := Run.inScope_eq_some.mp h
    exact runWithin_isNodup hstate hrun

/-- **`finally` writes its whole state over the result.**  When `protect` has a state to go on
with and `finally` ends, the result holds under a key what `finally` ended with, else what was
there before it.  A key that `finally` left as the step found it therefore keeps its value in
the result if and only if the step found nothing there or found that same value. -/
theorem finally_leaves_iff (input : State) {site : CallSite} (hframes : c.frames = frame :: rest)
    (hslots : frame.slots = site.slots) (hstate : State.IsNodup frame.state)
    (hfinally : SlotMap.has site.slots "finally" = true) {tried : Outcome State}
    {result last : State} {c₁ c₂ : Context}
    (htry : runSlotFrom (callWithin registry limit) site.slots childrenSlot frame.state
      [("phase", .str "try")] c = some (tried, c₁))
    (hhandled : Handled (callWithin registry limit) site.slots frame.state tried c₁
      (.ok result) c₂)
    (hlast : runSlotFrom (callWithin registry limit) site.slots "finally" frame.state
      [("phase", .str "finally")] c₂ = some (.ok last, d)) :
    ∃ merged, performWithin registry limit (protect input site) c = some (.ok (.obj merged), d) ∧
      (∀ key, Dict.get? merged key = (Dict.get? last key).or (Dict.get? result key)) ∧
      ∀ key, Dict.get? last key = Dict.get? frame.state key →
        (Dict.get? merged key = Dict.get? result key ↔
          Dict.get? frame.state key = none ∨ Dict.get? result key = Dict.get? frame.state key) := by
  have hmerged : ∀ key, Dict.get? (Dict.insertAll result last) key =
      (Dict.get? last key).or (Dict.get? result key) :=
    fun key => Dict.get?_insertAll (runSlotFrom_isNodup hstate hlast) key result
  refine ⟨Dict.insertAll result last, ?_, hmerged, fun key hleft => ?_⟩
  · exact (protect_eq_some input hframes hslots).mpr
      ⟨tried, c₁, .ok result, c₂, htry, hhandled, .finished hfinally hlast⟩
  · rw [hmerged, hleft]
    cases Dict.get? frame.state key with
    | none => simp
    | some v => simp [eq_comm]

/-- The children set `x`, and `finally` sets `y`. -/
def revertedUpdate : Step :=
  ⟨tryId, .empty, .empty, [("finally", [setStep "y" (.bool true)])],
    some [setStep "x" (.bool true)], none⟩

/-- Where its function is called. -/
def revertedSite : CallSite :=
  ⟨revertedUpdate.slotMap, [], none⟩

/-- Where its function runs: `x` is there already. -/
def updating : Context :=
  entryContext ⟨tryId, [], protect⟩ [] 0 revertedUpdate [("x", .bool false)]
    (.start .info false none)

theorem updating_frames :
    updating.frames = ⟨revertedSite.slots, [("x", .bool false)], []⟩ :: [] := rfl

theorem revertedSite_has_finally : SlotMap.has revertedSite.slots "finally" = true := rfl

theorem revertedUpdate_runs : ∃ c₁ d,
    runSlotFrom (callWithin .standard 1) revertedSite.slots childrenSlot
      [("x", .bool false)] [("phase", .str "try")] updating =
        some (.ok [("x", .bool true)], c₁) ∧
    runSlotFrom (callWithin .standard 1) revertedSite.slots "finally"
      [("x", .bool false)] [("phase", .str "finally")] c₁ =
        some (.ok [("x", .bool false), ("y", .bool true)], d) :=
  ⟨_, _, rfl, rfl⟩

/-- What `finally` leaves alone goes back to how the step found it: `x` does, while what is new
to the step stays as the children left it. -/
theorem revertedUpdate_finally_leaves : ∃ merged d,
    performWithin .standard 1 (protect [] revertedSite) updating = some (.ok (.obj merged), d) ∧
    Dict.get? merged "x" ≠ some (.bool true) ∧ Dict.get? merged "z" = none := by
  obtain ⟨c₁, d, htry, hlast⟩ := revertedUpdate_runs
  have hstate : State.IsNodup [("x", .bool false)] := by decide
  obtain ⟨merged, hrun, -, hiff⟩ := finally_leaves_iff [] updating_frames rfl hstate
    revertedSite_has_finally htry (.done _ c₁) hlast
  refine ⟨merged, d, hrun, fun hkept => ?_, (hiff "z" rfl).mpr (.inl rfl)⟩
  have hfound := (hiff "x" rfl).mp hkept
  revert hfound
  decide

/-- `finally` changes a key that it does not write: it leaves `x` as the step found it, and the
result has that in place of what the children set. -/
theorem revertedUpdate_loses_update : ∃ result c₁ last d merged,
    runSlotFrom (callWithin .standard 1) revertedSite.slots childrenSlot
      [("x", .bool false)] [("phase", .str "try")] updating = some (.ok result, c₁) ∧
    runSlotFrom (callWithin .standard 1) revertedSite.slots "finally"
      [("x", .bool false)] [("phase", .str "finally")] c₁ = some (.ok last, d) ∧
    performWithin .standard 1 (protect [] revertedSite) updating =
      some (.ok (.obj merged), d) ∧
    Dict.get? last "x" = Dict.get? [("x", .bool false)] "x" ∧
    Dict.get? merged "x" ≠ Dict.get? result "x" := by
  obtain ⟨c₁, d, htry, hlast⟩ := revertedUpdate_runs
  have hconcluded := Concluded.finished (p := .ok [("x", .bool true)]) revertedSite_has_finally
    hlast
  have hrun : performWithin .standard 1 (protect [] revertedSite) updating =
      some (.ok (.obj [("x", .bool false), ("y", .bool true)]), d) :=
    (protect_eq_some [] updating_frames rfl).mpr
      ⟨_, c₁, _, c₁, htry, .done _ c₁, hconcluded⟩
  exact ⟨_, c₁, _, d, _, htry, hlast, hrun, rfl, by decide⟩

/-! ## §5. When `finally` starts -/

/-- **`finally` starts unless the run is cancelled.**  Once `protect` is done with the children
and with `catch`, all that is left of it is one run of `finally`, from the state of the step.  It
starts with its first step at once, if the run is not cancelled by then and has the time.  If it
is, no step starts any more, and the fault of the cancelled run takes the place of the
outcome. -/
theorem finally_starts_unless_cancelled (input : State) {site : CallSite}
    (hframes : c.frames = frame :: rest) (hslots : frame.slots = site.slots) {first : Step}
    {others : List Step}
    (hfinally : SlotMap.resolve site.slots "finally" = some (first :: others))
    {r : Outcome Value} (h : performWithin registry limit (protect input site) c = some (r, d)) :
    ∃ tried c₁ p c₂,
      runSlotFrom (callWithin registry limit) site.slots childrenSlot frame.state
          [("phase", .str "try")] c = some (tried, c₁) ∧
        Handled (callWithin registry limit) site.slots frame.state tried c₁ p c₂ ∧
        (∃ x, runSlotFrom (callWithin registry limit) site.slots "finally" frame.state
          (finallyVars p) c₂ = some (x, d)) ∧
        (c₂.mayStart 2 = true →
          [.slotStarted "finally" (others.length + 1), .scopeOpened, .stepStarted 0 first.call] <+:
            c₂.eventsTo d) ∧
        (c₂.mayStart 2 = false →
          r = .error (.fault .cancelled) ∧ d.cancelled = true ∧
            ∀ index id, .stepStarted index id ∉ c₂.eventsTo d) := by
  obtain ⟨tried, c₁, p, c₂, htry, hhandled, hconcluded⟩ :=
    (protect_eq_some input hframes hslots).mp h
  have hhas : SlotMap.has site.slots "finally" = true := by
    rw [SlotMap.has, hfinally]
    rfl
  refine ⟨tried, c₁, p, c₂, htry, hhandled, ?_⟩
  cases hconcluded with
  | plain hnone =>
      rw [hhas] at hnone
      cases hnone
  | finished _ hrun =>
      refine ⟨⟨_, hrun⟩, fun hc => runSlotFrom_starts hfinally hc hrun, fun hc => ?_⟩
      obtain ⟨hr, -⟩ := runSlotFrom_refused hfinally hc hrun
      cases hr
  | interrupted _ hrun =>
      refine ⟨⟨_, hrun⟩, fun hc => runSlotFrom_starts hfinally hc hrun, fun hc => ?_⟩
      obtain ⟨hr, hrefused⟩ := runSlotFrom_refused hfinally hc hrun
      cases hr
      exact ⟨rfl, hrefused⟩

/-- The standard functions and one that asks the run to stop. -/
def stoppable : Registry :=
  Registry.standard.register "stop" fun _ _ => do
    Action.ask .cancel
    return .obj []

/-- The children ask the run to stop, and `finally` sets `y`. -/
def stoppedInside : Step :=
  ⟨tryId, .empty, .empty, [("finally", [setStep "y" (.bool true)])], some [.ofCall "stop"], none⟩

/-- Where its function is called. -/
def stoppedSite : CallSite :=
  ⟨stoppedInside.slotMap, [], none⟩

/-- Where its function runs. -/
def stopping : Context :=
  entryContext ⟨tryId, [], protect⟩ [] 0 stoppedInside [] (.start .info false none)

theorem stopping_frames : stopping.frames = ⟨stoppedSite.slots, [], []⟩ :: [] := rfl

/-- The run is cancelled when `finally` has its turn, and the step ends with that. -/
theorem stoppedInside_finally_starts : ∃ d tried c₁ p c₂,
    performWithin stoppable 1 (protect [] stoppedSite) stopping =
        some (.error (.fault .cancelled), d) ∧
      runSlotFrom (callWithin stoppable 1) stoppedSite.slots childrenSlot []
          [("phase", .str "try")] stopping = some (tried, c₁) ∧
      Handled (callWithin stoppable 1) stoppedSite.slots [] tried c₁ p c₂ ∧
      (∃ x, runSlotFrom (callWithin stoppable 1) stoppedSite.slots "finally" []
        (finallyVars p) c₂ = some (x, d)) ∧
      (c₂.mayStart 2 = true →
        [.slotStarted "finally" 1, .scopeOpened, .stepStarted 0 Builtin.setId] <+:
          c₂.eventsTo d) ∧
      (c₂.mayStart 2 = false → d.cancelled = true ∧
        ∀ index id, .stepStarted index id ∉ c₂.eventsTo d) := by
  have hends : ∃ d, performWithin stoppable 1 (protect [] stoppedSite) stopping =
      some (.error (.fault .cancelled), d) :=
    ⟨_, rfl⟩
  obtain ⟨d, hrun⟩ := hends
  have hfinally : SlotMap.resolve stoppedSite.slots "finally" =
      some (setStep "y" (.bool true) :: []) := rfl
  obtain ⟨tried, c₁, p, c₂, htry, hhandled, hlast, hstarts, hrefused⟩ :=
    finally_starts_unless_cancelled [] stopping_frames rfl hfinally hrun
  exact ⟨d, tried, c₁, p, c₂, hrun, htry, hhandled, hlast, hstarts, fun hc => (hrefused hc).2⟩

/-- `finally` may not run at all: the children do, and its only step never starts. -/
theorem stoppedInside_skips_finally : ∃ d,
    performWithin stoppable 1 (protect [] stoppedSite) stopping =
        some (.error (.fault .cancelled), d) ∧
      .slotStarted childrenSlot 1 ∈ stopping.eventsTo d ∧
      .stepStarted 0 Builtin.setId ∉ stopping.eventsTo d := by
  refine ⟨_, rfl, ?_, ?_⟩
  · decide
  · decide

end StepFlow.Engine
