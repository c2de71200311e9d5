import StepFlow.Proofs.SideBySide
import StepFlow.Session

/-
  StepFlow.Proofs.LogFilter
  ─────────────────────────
  The level of a run only filters what is logged.

  Of the standard functions one alone looks at the level, and only to decide
  whether a record is written.  Two runs of them at different levels therefore go
  on side by side, but for records that the run with the stricter level leaves
  out.

  `executeWithin_filters`: the outcome does not depend on the level, and the
  records at a stricter level are those at a laxer one that are severe enough.
-/

namespace StepFlow

/-! ## §1. What does not log -/

namespace Context

/-- The log records of a context, the latest one first. -/
def logs (c : Context) : List LogRecord :=
  c.journal.filterMap Event.logRecord?

/-- A context changes in nothing but its scopes, its frames and events that are no records. -/
structure Quiet (c d : Context) : Prop where
  cancelled : d.cancelled = c.cancelled
  clock : d.clock = c.clock
  logLevel : d.logLevel = c.logLevel
  logs : d.logs = c.logs

/-- Over the given scopes so many more are open, with no cleanup registered in any of them. -/
def Over (c : Context) (around : List Scope) (opened : Nat) : Prop :=
  c.inner = List.replicate opened [] ++ around

theorem Over.depth_eq {c : Context} {around : List Scope} {opened : Nat}
    (h : c.Over around opened) : c.depth = around.length + opened + 1 := by
  rw [depth, h, List.length_append, List.length_replicate, Nat.add_comm opened]

namespace Quiet

variable {c d e : Context}

theorem refl (c : Context) : c.Quiet c :=
  ⟨rfl, rfl, rfl, rfl⟩

theorem symm (h : c.Quiet d) : d.Quiet c :=
  ⟨h.cancelled.symm, h.clock.symm, h.logLevel.symm, h.logs.symm⟩

theorem trans (h : c.Quiet d) (h' : d.Quiet e) : c.Quiet e :=
  ⟨h'.cancelled.trans h.cancelled, h'.clock.trans h.clock, h'.logLevel.trans h.logLevel,
    h'.logs.trans h.logs⟩

theorem record (c : Context) {e : Event} (he : e.logRecord? = none) : c.Quiet (c.record e) := by
  refine ⟨rfl, rfl, rfl, ?_⟩
  show (e :: c.journal).filterMap Event.logRecord? = c.journal.filterMap Event.logRecord?
  rw [List.filterMap_cons, he]

theorem recordAll {es : List Event} (hes : ∀ e ∈ es, e.logRecord? = none) :
    ∀ (c : Context), c.Quiet (c.recordAll es) := by
  induction es with
  | nil => exact fun c => .refl c
  | cons e es ih =>
      intro c
      have hrest : ∀ e ∈ es, e.logRecord? = none := fun e' he' => hes e' (List.mem_cons_of_mem e he')
      exact (record c (hes e List.mem_cons_self)).trans (ih hrest (c.record e))

theorem openScope (c : Context) : c.Quiet c.openScope :=
  (record c (e := .scopeOpened) rfl).trans ⟨rfl, rfl, rfl, rfl⟩

/-- Where nothing was registered with the innermost scope, closing it is quiet. -/
theorem closeScope (c : Context) {rest : List Scope} (hc : c.inner = [] :: rest) :
    c.Quiet c.closeScope := by
  have hclose : c.closeScope = { c with inner := rest }.record .scopeClosed := by
    rw [closeScope_eq hc, List.any_nil, Bool.or_false]
    rfl
  have hpopped : c.Quiet { c with inner := rest } := ⟨rfl, rfl, rfl, rfl⟩
  rw [hclose]
  exact hpopped.trans (record _ rfl)

/-- Scopes without cleanups are closed quietly, however many. -/
theorem closeScopes (around : List Scope) (closed : Nat) :
    ∀ {opened : Nat} {c : Context}, c.Over around opened → closed ≤ opened →
      c.Quiet (closeScopes closed c) ∧ (closeScopes closed c).Over around (opened - closed) := by
  induction closed with
  | zero => exact fun hc _ => ⟨refl _, hc⟩
  | succ closed ih =>
      intro opened c hc hle
      obtain ⟨more, rfl⟩ : ∃ more, opened = more + 1 := ⟨opened - 1, by omega⟩
      have hnext : c.closeScope.Over around more := by
        unfold Over
        rw [closeScope_eq hc]
        rfl
      obtain ⟨hquiet, hinner⟩ := ih hnext (by omega)
      refine ⟨(closeScope c hc).trans hquiet, ?_⟩
      rw [Nat.add_sub_add_right]
      exact hinner

/-- What was opened is closed as far as it was open before. -/
theorem closeTo {around : List Scope} {before opened : Nat} (hc : c.Over around before)
    (hd : d.Over around opened) :
    d.Quiet (d.closeTo c.depth) ∧
      (d.closeTo c.depth).Over around (opened - (opened - before)) := by
  have hclosed : d.depth - c.depth = opened - before := by
    rw [hc.depth_eq, hd.depth_eq]
    omega
  rw [Context.closeTo, hclosed]
  exact closeScopes around _ hd (Nat.sub_le opened before)

end Quiet

/-- Cleanups write no log records. -/
theorem logs_runCleanups (c : Context) (cleanups : Scope) :
    (c.runCleanups cleanups).logs = c.logs := by
  have hevents : (Event.ofCleanups cleanups).filterMap Event.logRecord? = [] := by
    refine List.filterMap_eq_nil_iff.mpr fun e he => ?_
    rcases Event.of_mem_ofCleanups he with ⟨k, rfl⟩ | rfl | ⟨error, rfl⟩ <;> rfl
  rw [runCleanups_eq]
  show List.filterMap Event.logRecord? (_ ++ c.journal) = c.journal.filterMap Event.logRecord?
  rw [List.filterMap_append, List.filterMap_reverse, hevents]
  rfl

theorem logs_closeScopes (n : Nat) : ∀ (c : Context), (closeScopes n c).logs = c.logs := by
  induction n with
  | zero => intro c; rfl
  | succ n ih =>
      intro c
      show (closeScopes n c.closeScope).logs = _
      rw [ih, closeScope]
      split
      · rfl
      · rw [logs_runCleanups]
        rfl

theorem logs_close (c : Context) : c.close.logs = c.logs := by
  have hscopes : ∀ (scopes : List Scope) (c : Context),
      (scopes.foldl runCleanups c).logs = c.logs := by
    intro scopes
    induction scopes with
    | nil => intro c; rfl
    | cons scope rest ih => intro c; exact (ih _).trans (logs_runCleanups c scope)
  exact hscopes _ _

end Context

/-! ## §2. Two levels -/

/-- Two levels, the laxer one first, and which records both runs have: of those that the
first run may write, the ones that are severe enough for the second. -/
structure LogView where
  lax : LogLevel
  strict : LogLevel
  le : lax ≤ strict
  keep : LogRecord → Bool
  keep_iff : ∀ r : LogRecord, lax ≤ r.level → (keep r = true ↔ strict ≤ r.level)
  /-- The scopes around the first run, which it does not close, -/
  around : List Scope
  /-- and those around the second. -/
  around' : List Scope

namespace LogView

variable {view : LogView} {c d c' d' : Context}

/-- The contexts of two runs at the two levels.  Standard functions register no cleanups. -/
structure Relates (view : LogView) (c d : Context) : Prop where
  cancelled : c.cancelled = d.cancelled
  clock : c.clock = d.clock
  lax : c.logLevel = view.lax
  strict : d.logLevel = view.strict
  logs : d.logs = c.logs.filter view.keep
  scopes : ∃ opened, c.Over view.around opened ∧ d.Over view.around' opened

/-- Quiet changes that leave as many scopes open in both runs. -/
theorem Relates.quiet (h : view.Relates c d) (hc : c.Quiet c') (hd : d.Quiet d')
    (hscopes : ∃ opened, c'.Over view.around opened ∧ d'.Over view.around' opened) :
    view.Relates c' d' where
  cancelled := by rw [hc.cancelled, hd.cancelled, h.cancelled]
  clock := by rw [hc.clock, hd.clock, h.clock]
  lax := hc.logLevel.trans h.lax
  strict := hd.logLevel.trans h.strict
  logs := by rw [hc.logs, hd.logs, h.logs]
  scopes := hscopes

theorem Relates.record (h : view.Relates c d) {e e' : Event} (he : e.logRecord? = none)
    (he' : e'.logRecord? = none) : view.Relates (c.record e) (d.record e') :=
  h.quiet (.record c he) (.record d he') h.scopes

theorem Relates.tick (h : view.Relates c d) : view.Relates c.tick d.tick := by
  unfold Context.tick
  rw [h.cancelled, h.clock]
  split
  · exact h
  · split
    · exact h
    · have hcancelled : view.Relates { c with cancelled := true } { d with cancelled := true } :=
        { h with cancelled := rfl }
      exact hcancelled.record rfl rfl
    · exact ⟨rfl, rfl, h.lax, h.strict, h.logs, h.scopes⟩

theorem Relates.openScope (h : view.Relates c d) : view.Relates c.openScope d.openScope := by
  obtain ⟨opened, hc, hd⟩ := h.scopes
  refine h.quiet (.openScope c) (.openScope d) ⟨opened + 1, ?_, ?_⟩
  · exact congrArg ([] :: ·) hc
  · exact congrArg ([] :: ·) hd

/-- Closing is quiet: it reaches no cleanup. -/
theorem Relates.closeTo (h : view.Relates c d) (h' : view.Relates c' d') :
    view.Relates (c'.closeTo c.depth) (d'.closeTo d.depth) := by
  obtain ⟨before, hc, hd⟩ := h.scopes
  obtain ⟨opened, hc', hd'⟩ := h'.scopes
  obtain ⟨hquiet, hover⟩ := Context.Quiet.closeTo hc hc'
  obtain ⟨hquiet', hover'⟩ := Context.Quiet.closeTo hd hd'
  exact h'.quiet hquiet hquiet' ⟨_, hover, hover'⟩

/-- A record that both runs write. -/
theorem Relates.log (h : view.Relates c d) {r : LogRecord} (hr : view.strict ≤ r.level) :
    view.Relates (c.record (.noted (.log r))) (d.record (.noted (.log r))) := by
  refine { h with logs := ?_ }
  have hkeep : view.keep r = true := (view.keep_iff r (Nat.le_trans view.le hr)).mpr hr
  show r :: d.logs = (r :: c.logs).filter view.keep
  rw [List.filter_cons_of_pos hkeep, h.logs]

/-- A record that is not severe enough for the second run. -/
theorem Relates.logAlone (h : view.Relates c d) {r : LogRecord} (hlax : view.lax ≤ r.level)
    (hstrict : ¬ view.strict ≤ r.level) : view.Relates (c.record (.noted (.log r))) d := by
  refine { h with logs := ?_ }
  have hkeep : ¬ view.keep r = true := fun hkeep => hstrict ((view.keep_iff r hlax).mp hkeep)
  show d.logs = (r :: c.logs).filter view.keep
  rw [List.filter_cons_of_neg hkeep, h.logs]

/-- The requests of two runs at the two levels. -/
inductive Asks (view : LogView) : (r s : Request) → (r.Reply → s.Reply → Prop) → Prop where
  | isCancelled : view.Asks .isCancelled .isCancelled Eq
  | report (n : FlowNote) : view.Asks (.note (.flow n)) (.note (.flow n)) Eq
  /-- The levels are the two that the runs have. -/
  | logLevel : view.Asks .logLevel .logLevel fun x y => x = view.lax ∧ y = view.strict
  | log {r : LogRecord} (hr : view.strict ≤ r.level) :
      view.Asks (.note (.log r)) (.note (.log r)) Eq

/-- The requests that the run at the laxer level makes alone. -/
inductive Skips (view : LogView) : Request → Prop where
  | log {r : LogRecord} (hlax : view.lax ≤ r.level) (hstrict : ¬ view.strict ≤ r.level) :
      view.Skips (.note (.log r))

/-- How two runs of the same functions at the two levels go together. -/
def dialogue (view : LogView) : Dialogue where
  asks := view.Asks
  skips := view.Skips

/-- Contexts of runs at the two levels correspond. -/
def correspondence (view : LogView) : Correspondence where
  holds := view.Relates
  cancelled h := h.cancelled
  withFrames h _ _ := { h with }
  tick h := h.tick
  record h _ he := h.record he he
  openScope h := h.openScope
  closeTo h h' := h.closeTo h'

theorem correspondence_carries (view : LogView) : view.correspondence.Carries view.dialogue where
  asks h registry other invoker invoker' frames := by
    cases h with
    | isCancelled => exact .bind .get fun _ _ h => .pure h.holds.cancelled
    | report n => exact .record rfl
    | logLevel => exact .bind .get fun _ _ h => .pure ⟨h.holds.lax, h.holds.strict⟩
    | log hr => exact .modify fun h => h.of_frames_eq (h.holds.log hr) rfl rfl
  skips h registry invoker frames := by
    cases h with
    | log hlax hstrict =>
        exact fun c d h =>
          .some ⟨trivial, h.of_frames_eq (h.holds.logAlone hlax hstrict) rfl rfl⟩

/-- Logging at the two levels: the records that are not severe enough for the stricter one are
written in the first run alone. -/
theorem log_corresponds (view : LogView) (input : State) (site : CallSite) :
    (Builtin.log input site).run.Corresponds view.dialogue (Builtin.log input site).run Eq := by
  unfold Builtin.log
  split
  · exact .done rfl
  · next text _ =>
      refine .ask Asks.logLevel fun x y hxy => ?_
      obtain ⟨rfl, rfl⟩ := hxy
      let level := Builtin.levelOf text
      let write : Action Value := do
        Action.ask (.note (.log (Builtin.logRecord level input)))
        return .obj []
      show Program.Corresponds view.dialogue
        (ExceptT.run (if view.lax ≤ level then write else pure (.obj [])))
        (ExceptT.run (if view.strict ≤ level then write else pure (.obj []))) Eq
      by_cases hstrict : view.strict ≤ level
      · have hlax : view.lax ≤ level := Nat.le_trans view.le hstrict
        rw [if_pos hlax, if_pos hstrict]
        exact .ask (Asks.log hstrict) fun _ _ _ => .done rfl
      · rw [if_neg hstrict]
        by_cases hlax : view.lax ≤ level
        · rw [if_pos hlax]
          exact .skip (Skips.log hlax hstrict) fun _ => .done rfl
        · rw [if_neg hlax]
          exact .done rfl

/-- The standard functions at the two levels. -/
theorem standard_corresponds (view : LogView) :
    Registry.standard.Corresponds view.dialogue .standard := by
  refine .refl fun id entry hentry input site => ?_
  rcases Registry.standard_uses hentry with hlog | huses
  · rw [hlog]
    exact view.log_corresponds input site
  · refine Program.Uses.corresponds (fun r hr => ?_) (huses input site)
    cases hr with
    | runSlot => exact .inl rfl
    | isCancelled => exact .inr .isCancelled
    | report n => exact .inr (.report n)

/-- Two runs of a sequence at the two levels. -/
theorem runWithin_corresponds (view : LogView) (limit : Nat) (steps : List Step)
    (state vars : State) (h : view.Relates c d) :
    Option.Rel (fun p q => p.1 = q.1 ∧ view.Relates p.2 q.2)
      (Engine.runWithin .standard limit steps state vars c)
      (Engine.runWithin .standard limit steps state vars d) :=
  Engine.runWithin_corresponds view.correspondence_carries view.standard_corresponds limit steps
    state vars h

/-- One level for both runs, which then have the same records. -/
def same (level : LogLevel) (around around' : List Scope) : LogView where
  lax := level
  strict := level
  le := Nat.le_refl _
  keep _ := true
  keep_iff _ h := ⟨fun _ => h, fun _ => rfl⟩
  around := around
  around' := around'

section Same

variable {level : LogLevel} {around around' : List Scope}

theorem filter_same (records : List LogRecord) :
    records.filter (same level around around').keep = records :=
  List.filter_eq_self.mpr fun _ _ => rfl

theorem same_relates (h : c.Quiet d)
    (hscopes : ∃ opened, c.Over around opened ∧ d.Over around' opened) :
    (same c.logLevel around around').Relates c d :=
  ⟨h.cancelled.symm, h.clock.symm, rfl, h.logLevel, h.logs.trans (filter_same _).symm, hscopes⟩

theorem Relates.quiet_of_same (h : (same level around around').Relates c d) : c.Quiet d :=
  ⟨h.cancelled.symm, h.clock.symm, h.strict.trans h.lax.symm, h.logs.trans (filter_same _)⟩

end Same

theorem quiet_tick (h : c.Quiet d) : c.tick.Quiet d.tick :=
  (same_relates h ⟨0, rfl, rfl⟩).tick.quiet_of_same

/-- What a stricter level leaves of the records at a laxer one. -/
def filtering {lax strict : LogLevel} (hle : lax ≤ strict) : LogView where
  lax := lax
  strict := strict
  le := hle
  keep r := decide (strict ≤ r.level)
  keep_iff _ _ := decide_eq_true_iff
  around := []
  around' := []

end LogView

/-! ## §3. Reports -/

/-- The log records of a run, in order. -/
def Report.logs (r : Report) : List LogRecord :=
  r.journal.filterMap Event.logRecord?

namespace Session

theorem logRecord?_endEvent (outcome : Except Fault State) :
    (endEvent outcome).logRecord? = none := by
  cases outcome with
  | ok state => rfl
  | error e =>
      rw [endEvent]
      split <;> rfl

/-- A report tells of the records that its steps wrote. -/
theorem executeWithin_logs (limit : Nat) (registry : Registry) (settings : Settings)
    (cancelled : Bool) (steps : List Step) (initial : State) :
    (executeWithin limit registry settings cancelled steps initial).map
        (fun r => (r.outcome, r.logs)) =
      (Engine.runWithin registry limit steps initial []
        ((context settings cancelled).record (.runStarted steps.length))).map
        fun p => (outcomeOf p.1, p.2.logs.reverse) := by
  unfold executeWithin
  dsimp only
  match Engine.runWithin registry limit steps initial [] _ with
  | none => rfl
  | some (result, c) =>
      have hlogs : (c.record (endEvent (outcomeOf result))).close.logs = c.logs :=
        (Context.logs_close _).trans
          (Context.Quiet.record c (logRecord?_endEvent (outcomeOf result))).logs
      show some (_, List.filterMap Event.logRecord? (List.reverse _)) = _
      rw [List.filterMap_reverse]
      exact congrArg (fun logs => some (outcomeOf result, logs.reverse)) hlogs

/-- **The level of a run only filters what is logged.**  At a stricter level a run of standard
functions has the same outcome, and it logs, in order, the records of the laxer level that are
severe enough. -/
theorem executeWithin_filters {lax strict : LogLevel} (hle : lax ≤ strict) (limit : Nat)
    (settings : Settings) (cancelled : Bool) (steps : List Step) (initial : State) :
    (executeWithin limit .standard { settings with logLevel := strict } cancelled steps
        initial).map (fun r => (r.outcome, r.logs)) =
      (executeWithin limit .standard { settings with logLevel := lax } cancelled steps
        initial).map (fun r => (r.outcome, r.logs.filter (strict ≤ ·.level))) := by
  let start (level : LogLevel) : Context :=
    (context { settings with logLevel := level } cancelled).record (.runStarted steps.length)
  have hstart : (LogView.filtering hle).Relates (start lax) (start strict) :=
    ⟨rfl, rfl, rfl, rfl, rfl, 0, rfl, rfl⟩
  have hruns := LogView.runWithin_corresponds _ limit steps initial [] hstart
  calc
    _ = (Engine.runWithin .standard limit steps initial [] (start strict)).map
          fun p => (outcomeOf p.1, p.2.logs.reverse) := executeWithin_logs ..
    _ = (Engine.runWithin .standard limit steps initial [] (start lax)).map
          fun p => (outcomeOf p.1, p.2.logs.reverse.filter (strict ≤ ·.level)) := by
        match Engine.runWithin .standard limit steps initial [] (start lax),
          Engine.runWithin .standard limit steps initial [] (start strict), hruns with
        | _, _, .none => rfl
        | _, _, .some (a := p) (b := q) ⟨hresult, hend⟩ =>
            have hlogs : q.2.logs = p.2.logs.filter (strict ≤ ·.level) := hend.logs
            simp only [Option.map_some, hresult, hlogs, List.filter_reverse]
    _ = ((Engine.runWithin .standard limit steps initial [] (start lax)).map
          fun p => (outcomeOf p.1, p.2.logs.reverse)).map
            fun r => (r.1, r.2.filter (strict ≤ ·.level)) := by
        rw [Option.map_map]
        rfl
    _ = _ := by
        rw [← executeWithin_logs, Option.map_map]
        rfl

/-- A loop that logs each item as a message at `info`, and one record at `warn` for each. -/
def chattyLoop : List Step :=
  [⟨Flow.foreachId, ⟨[], [("list", .required (.arr [.str "a", .str "b"]))]⟩, .empty, [],
    some [⟨Builtin.logId, ⟨[], [("message", .required (.str "$slot.item"))]⟩, .empty, [], none,
        none⟩,
      ⟨Builtin.logId, ⟨[], [("level", .required (.str "warn"))]⟩, .empty, [], none, none⟩],
    none⟩]

/-- At `warn` two of the four records are left. -/
theorem chattyLoop_filters : ∃ r s,
    executeWithin 2 .standard { Settings.default with logLevel := .info } false chattyLoop [] =
        some r ∧
      executeWithin 2 .standard { Settings.default with logLevel := .warn } false chattyLoop [] =
        some s ∧
      r.logs.length = 4 ∧ s.logs.length = 2 ∧ s.outcome = r.outcome ∧
      s.logs = r.logs.filter (LogLevel.warn ≤ ·.level) := by
  have hreports : ∃ r s,
      executeWithin 2 .standard { Settings.default with logLevel := .info } false chattyLoop [] =
          some r ∧
        executeWithin 2 .standard { Settings.default with logLevel := .warn } false chattyLoop [] =
          some s ∧
        r.logs.length = 4 ∧ s.logs.length = 2 :=
    ⟨_, _, rfl, rfl, rfl, rfl⟩
  obtain ⟨r, s, hr, hs, hmany, hfew⟩ := hreports
  have hle : LogLevel.info ≤ LogLevel.warn := by decide
  have hfilters := executeWithin_filters hle 2 .default false chattyLoop []
  rw [hr, hs, Option.map_some, Option.map_some, Option.some.injEq, Prod.mk.injEq] at hfilters
  exact ⟨r, s, hr, hs, hmany, hfew, hfilters⟩

end Session

end StepFlow
