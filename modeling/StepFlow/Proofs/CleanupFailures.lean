import Mathlib.Logic.Basic
import StepFlow.Proofs.SideBySide
import StepFlow.Session

/-
  StepFlow.Proofs.CleanupFailures
  ───────────────────────────────
  Cleanups that fail make no difference.

  Two runs whose functions differ only in how the cleanups that they register
  fail go on side by side.  A cleanup runs when its scope is closed: by a
  function, at the end of a step or of a nested run, while an error or a signal is
  on its way, or at the very end.  Wherever that is, a failure is noted and the
  next cleanup runs.

  `cleanupFailures_invisible`: the outcome, what was recorded, the open scopes and
  the flag are the same; the notes on failures are all that differs.
-/

namespace StepFlow

/-! ## §1. Forgetting failures -/

/-- A cleanup as if it could not fail. -/
def Cleanup.forgetFailure (k : Cleanup) : Cleanup :=
  { k with failure := none }

namespace Event

/-- An event as if cleanups could not fail; the note on a failure is no event then. -/
def forgetFailure? : Event → Option Event
  | .deferred k => some (.deferred k.forgetFailure)
  | .cleaned k => some (.cleaned k.forgetFailure)
  | .cleanupFailed _ => none
  | e => some e

/-- Events as if cleanups could not fail. -/
def forgetFailures (es : List Event) : List Event :=
  es.filterMap forgetFailure?

theorem forgetFailures_append (es fs : List Event) :
    forgetFailures (es ++ fs) = forgetFailures es ++ forgetFailures fs :=
  List.filterMap_append

theorem forgetFailures_reverse (es : List Event) :
    forgetFailures es.reverse = (forgetFailures es).reverse :=
  List.filterMap_reverse

/-- Every cleanup of a scope runs, whichever of them fail. -/
theorem forgetFailures_ofCleanups (cleanups : Scope) :
    forgetFailures (ofCleanups cleanups) = ofCleanups (cleanups.map Cleanup.forgetFailure) := by
  induction cleanups with
  | nil => rfl
  | cons k ks ih =>
      have hfirst : forgetFailures (.cleaned k :: afterCleanup k) =
          .cleaned k.forgetFailure :: afterCleanup k.forgetFailure := by
        obtain ⟨⟨note, failure⟩, stops⟩ := k
        cases failure <;> cases stops <;> rfl
      rw [List.map_cons, ofCleanups_cons, ofCleanups_cons, forgetFailures_append, hfirst, ih]

/-- What functions and cleanups leave for the caller to see does not tell failures. -/
theorem filterMap_value?_forgetFailures (es : List Event) :
    (forgetFailures es).filterMap value? = es.filterMap value? := by
  rw [forgetFailures, List.filterMap_filterMap]
  congr 1
  funext e
  cases e <;> rfl

/-- Without failures, all lines are there but the warnings of failed cleanups. -/
theorem filterMap_line?_forgetFailures (es : List Event) :
    (forgetFailures es).filterMap line? =
      (es.filterMap line?).filter (·.message ≠ "Scope cleanup failed") := by
  have hline : ∀ e : Event, e.forgetFailure?.bind line? =
      e.line?.filter (·.message ≠ "Scope cleanup failed") := by
    intro e
    cases e with
    | noted n =>
        cases n with
        | flow n => cases n <;> rfl
        | value _ | log _ => rfl
    | _ => rfl
  rw [forgetFailures, List.filterMap_filterMap, List.filter_filterMap]
  congr 1
  funext e
  exact hline e

end Event

/-- Cleanups that are the same but for failures ask the run to stop alike. -/
theorem Cleanup.any_stops_eq {ks ls : Scope}
    (h : ks.map Cleanup.forgetFailure = ls.map Cleanup.forgetFailure) :
    ks.any Cleanup.stops = ls.any Cleanup.stops := by
  have hany : ∀ ms : Scope, (ms.map Cleanup.forgetFailure).any Cleanup.stops =
      ms.any Cleanup.stops := fun ms => List.any_map
  rw [← hany ks, h, hany]

/-- Two contexts that are the same, as if cleanups could not fail.  Frames do not count. -/
structure Context.SameButFailures (c d : Context) : Prop where
  root : c.root.map Cleanup.forgetFailure = d.root.map Cleanup.forgetFailure
  inner : c.inner.map (List.map Cleanup.forgetFailure) =
    d.inner.map (List.map Cleanup.forgetFailure)
  cancelled : c.cancelled = d.cancelled
  clock : c.clock = d.clock
  logLevel : c.logLevel = d.logLevel
  journal : Event.forgetFailures c.journal = Event.forgetFailures d.journal

/-! ## §2. What the engine does to two such contexts -/

namespace Context.SameButFailures

variable {c d : Context}

theorem refl (c : Context) : c.SameButFailures c :=
  ⟨rfl, rfl, rfl, rfl, rfl, rfl⟩

theorem depth_eq (h : c.SameButFailures d) : c.depth = d.depth := by
  have hlength := congrArg List.length h.inner
  rw [List.length_map, List.length_map] at hlength
  rw [depth, depth, hlength]

theorem record {e e' : Event} (h : c.SameButFailures d)
    (he : e.forgetFailure? = e'.forgetFailure?) : (c.record e).SameButFailures (d.record e') := by
  refine { h with journal := ?_ }
  show (e :: c.journal).filterMap _ = (e' :: d.journal).filterMap _
  rw [List.filterMap_cons, List.filterMap_cons, he]
  cases e'.forgetFailure? with
  | none => exact h.journal
  | some e => exact congrArg (e :: ·) h.journal

theorem cancel (h : c.SameButFailures d) : c.cancel.SameButFailures d.cancel := by
  have hflag : { c with cancelled := true }.SameButFailures { d with cancelled := true } :=
    { h with cancelled := rfl }
  exact hflag.record rfl

theorem tick (h : c.SameButFailures d) : c.tick.SameButFailures d.tick := by
  unfold Context.tick
  rw [h.cancelled, h.clock]
  split
  · exact h
  · split
    · exact h
    · exact h.cancel
    · exact ⟨h.root, h.inner, rfl, rfl, h.logLevel, h.journal⟩

/-- Waiting leaves the frames alone. -/
theorem awaitCancel (h : c.SameButFailures d) :
    Option.Rel (fun c' d' => c'.SameButFailures d' ∧ c'.frames = c.frames ∧ d'.frames = d.frames)
      c.awaitCancel d.awaitCancel := by
  unfold Context.awaitCancel
  rw [h.cancelled, h.clock]
  split
  · exact .some ⟨h, rfl, rfl⟩
  · split
    · exact .none
    · have hclock : { c with clock := some 0 }.SameButFailures { d with clock := some 0 } :=
        { h with clock := rfl }
      exact .some ⟨hclock.cancel, rfl, rfl⟩

theorem openScope (h : c.SameButFailures d) : c.openScope.SameButFailures d.openScope := by
  have hinner : { c with inner := [] :: c.inner }.SameButFailures
      { d with inner := [] :: d.inner } :=
    { h with inner := congrArg ([] :: ·) h.inner }
  exact hinner.record rfl

theorem runCleanups {ks ls : Scope} (h : c.SameButFailures d)
    (hks : ks.map Cleanup.forgetFailure = ls.map Cleanup.forgetFailure) :
    (c.runCleanups ks).SameButFailures (d.runCleanups ls) := by
  have hevents : Event.forgetFailures (Event.ofCleanups ks) =
      Event.forgetFailures (Event.ofCleanups ls) := by
    rw [Event.forgetFailures_ofCleanups, hks, Event.forgetFailures_ofCleanups]
  have hflag : (c.cancelled || ks.any Cleanup.stops) = (d.cancelled || ls.any Cleanup.stops) := by
    rw [h.cancelled, Cleanup.any_stops_eq hks]
  rw [runCleanups_eq, runCleanups_eq]
  refine { h with cancelled := hflag, journal := ?_ }
  show Event.forgetFailures (_ ++ _) = Event.forgetFailures (_ ++ _)
  rw [Event.forgetFailures_append, Event.forgetFailures_append, Event.forgetFailures_reverse,
    Event.forgetFailures_reverse, hevents, h.journal]

/-- Both have a scope that is not the root, or none. -/
theorem inner_cases (h : c.SameButFailures d) :
    (c.inner = [] ∧ d.inner = []) ∨
      ∃ scope scope' rest rest', c.inner = scope :: rest ∧ d.inner = scope' :: rest' ∧
        scope.map Cleanup.forgetFailure = scope'.map Cleanup.forgetFailure ∧
        rest.map (List.map Cleanup.forgetFailure) =
          rest'.map (List.map Cleanup.forgetFailure) := by
  have hinner := h.inner
  cases hc : c.inner with
  | nil =>
      rw [hc, List.map_nil, eq_comm, List.map_eq_nil_iff] at hinner
      exact .inl ⟨rfl, hinner⟩
  | cons scope rest =>
      cases hd : d.inner with
      | nil =>
          rw [hc, hd] at hinner
          cases hinner
      | cons scope' rest' =>
          rw [hc, hd, List.map_cons, List.map_cons, List.cons.injEq] at hinner
          exact .inr ⟨scope, scope', rest, rest', rfl, rfl, hinner⟩

theorem closeScope (h : c.SameButFailures d) : c.closeScope.SameButFailures d.closeScope := by
  unfold Context.closeScope
  obtain ⟨hc, hd⟩ | ⟨scope, scope', rest, rest', hc, hd, hscope, hrest⟩ := h.inner_cases
  · rw [hc, hd]
    exact h
  · rw [hc, hd]
    have hpopped : { c with inner := rest }.SameButFailures { d with inner := rest' } :=
      { h with inner := hrest }
    exact (hpopped.record rfl).runCleanups hscope

theorem closeScopes (n : Nat) :
    ∀ {c d : Context}, c.SameButFailures d → (closeScopes n c).SameButFailures (closeScopes n d) := by
  induction n with
  | zero => exact fun h => h
  | succ n ih => exact fun h => ih h.closeScope

theorem closeTo (h : c.SameButFailures d) {keep keep' : Nat} (hkeep : keep = keep') :
    (c.closeTo keep).SameButFailures (d.closeTo keep') := by
  unfold Context.closeTo
  rw [h.depth_eq, hkeep]
  exact h.closeScopes _

theorem defer {k l : Cleanup} (h : c.SameButFailures d)
    (hk : k.forgetFailure = l.forgetFailure) : (c.defer k).SameButFailures (d.defer l) := by
  have hrecord : (c.record (.deferred k)).SameButFailures (d.record (.deferred l)) :=
    h.record (congrArg (some <| Event.deferred ·) hk)
  unfold Context.defer
  obtain ⟨hc, hd⟩ | ⟨scope, scope', rest, rest', hc, hd, hscope, hrest⟩ := hrecord.inner_cases
  · simp only [hc, hd]
    exact { hrecord with root := congrArg₂ (· :: ·) hk h.root, inner := rfl }
  · simp only [hc, hd]
    exact { hrecord with inner := congrArg₂ (· :: ·) (congrArg₂ (· :: ·) hk hscope) hrest }

theorem runScopes {ss : List Scope} : ∀ {ts : List Scope} {c d : Context}, c.SameButFailures d →
    ss.map (List.map Cleanup.forgetFailure) = ts.map (List.map Cleanup.forgetFailure) →
    (ss.foldl Context.runCleanups c).SameButFailures (ts.foldl Context.runCleanups d) := by
  induction ss with
  | nil =>
      intro ts c d h hss
      rw [List.map_nil, eq_comm, List.map_eq_nil_iff] at hss
      rw [hss]
      exact h
  | cons s ss ih =>
      intro ts c d h hss
      cases ts with
      | nil => cases hss
      | cons t ts =>
          rw [List.map_cons, List.map_cons, List.cons.injEq] at hss
          rw [List.foldl_cons, List.foldl_cons]
          exact ih (h.runCleanups hss.1) hss.2

theorem close (h : c.SameButFailures d) : c.close.SameButFailures d.close := by
  have hempty : { c with root := [], inner := [] }.SameButFailures
      { d with root := [], inner := [] } :=
    { h with root := rfl, inner := rfl }
  refine hempty.runScopes (congrArg₂ (· :: ·) h.root ?_)
  rw [List.map_reverse, List.map_reverse, h.inner]

end Context.SameButFailures

/-! ## §3. Functions whose cleanups fail differently -/

/-- Two functions make the same requests, but the cleanups that they register may fail in one
way or another, or not at all. -/
inductive AskedButFailures : (r s : Request) → (r.Reply → s.Reply → Prop) → Prop where
  | same (r : Request) (hr : r.usesRegistry = false) : AskedButFailures r r Eq
  | defer {k l : CleanupResult} (hnote : k.note = l.note) (stops : Bool) :
      AskedButFailures (.defer k stops) (.defer l stops) Eq

/-- How functions go together that differ only in the failures of their cleanups. -/
def Dialogue.cleanupFailures : Dialogue where
  asks := AskedButFailures
  skips _ := False

/-- Contexts that are the same but for failures of cleanups. -/
def Correspondence.cleanupFailures : Correspondence where
  holds := Context.SameButFailures
  cancelled h := h.cancelled
  withFrames h _ _ := { h with }
  tick h := h.tick
  record h _ _ := h.record rfl
  openScope h := h.openScope
  closeTo h h' := h'.closeTo h.depth_eq

namespace Engine

variable {registry other : Registry} {invoker invoker' : Invoker} {frames : List Frame}

theorem defer_corresponds {k l : CleanupResult} (hnote : k.note = l.note) (stops : Bool) :
    Run.Corresponds .cleanupFailures frames (answer registry invoker (.defer k stops))
      (answer other invoker' (.defer l stops)) Eq := by
  have hforget : Cleanup.forgetFailure ⟨k, stops⟩ = Cleanup.forgetFailure ⟨l, stops⟩ := by
    rw [Cleanup.forgetFailure, Cleanup.forgetFailure, hnote]
  exact .modify fun h => h.of_frames_eq (h.holds.defer hforget) (Context.defer_frames _ _)
    (Context.defer_frames _ _)

/-- What does not use the registry acts on the context alone. -/
theorem answer_corresponds_self : ∀ (r : Request), r.usesRegistry = false →
    Run.Corresponds .cleanupFailures frames (answer registry invoker r)
      (answer other invoker' r) Eq
  | .openScope, _ => .modify fun h => h.openScope
  | .closeScope, _ => .modify fun {c d} h =>
      h.of_frames_eq h.holds.closeScope c.closeScope_frames d.closeScope_frames
  | .depth, _ => .bind .get fun _ _ h => .pure h.holds.depth_eq
  | .defer _ stops, _ => defer_corresponds rfl stops
  | .cancel, _ => .modify fun h => h.of_frames_eq h.holds.cancel rfl rfl
  | .isCancelled, _ => .bind .get fun _ _ h => .pure h.holds.cancelled
  | .awaitCancel, _ => by
      intro c d h
      show Option.Rel _ (c.awaitCancel.map fun c => ((), c)) (d.awaitCancel.map fun d => ((), d))
      match c.awaitCancel, d.awaitCancel, h.holds.awaitCancel with
      | _, _, .none => exact .none
      | _, _, .some hend => exact .some ⟨rfl, h.of_frames_eq hend.1 hend.2.1 hend.2.2⟩
  | .logLevel, _ => .bind .get fun _ _ h => .pure h.holds.logLevel
  | .note _, _ => .modify fun h => h.of_frames_eq (h.holds.record rfl) rfl rfl

end Engine

theorem Correspondence.cleanupFailures_carries : cleanupFailures.Carries .cleanupFailures where
  skips h := h.elim
  asks h registry other invoker invoker' frames := by
    cases h with
    | same _ hr => exact Engine.answer_corresponds_self _ hr
    | defer hnote stops => exact Engine.defer_corresponds hnote stops

/-- Functions whose cleanups do not even differ. -/
theorem Registry.corresponds_cleanupFailures_self (registry : Registry) :
    registry.Corresponds .cleanupFailures registry := by
  refine .refl fun id entry _ input site => ?_
  have huses : (entry.function input site).run.Uses fun _ => True :=
    Program.uses_of_forall (fun _ => trivial) _
  refine huses.corresponds fun r _ => ?_
  cases hr : r.usesRegistry with
  | true => exact .inl rfl
  | false => exact .inr (.same r hr)

/-! ## §4. Runs -/

/-- **Cleanups that fail make no difference.**  Take two registries whose functions differ only
in how the cleanups that they register fail.  Started in contexts that are the same but for
failures of cleanups, a sequence has the same outcome over both and leaves the same open scopes,
the same flag, and contexts that are the same but for failures; or both reach the limit.  Reports
have the same outcome, the same values of functions and cleanups, and the same lines but for the
warnings of failed cleanups. -/
theorem cleanupFailures_invisible {registry other : Registry}
    (hregistry : registry.Corresponds .cleanupFailures other) (limit : Nat) (steps : List Step)
    (initial : State) :
    (∀ (vars : State) (c d : Context), c.SameButFailures d →
      Option.Rel (fun p q => p.1 = q.1 ∧ p.2.depth = q.2.depth ∧ p.2.cancelled = q.2.cancelled ∧
          p.2.SameButFailures q.2)
        (Engine.runWithin registry limit steps initial vars c)
        (Engine.runWithin other limit steps initial vars d)) ∧
    ∀ (settings : Settings) (cancelled : Bool),
      Option.Rel (fun r s => r.outcome = s.outcome ∧
          Event.forgetFailures r.journal = Event.forgetFailures s.journal ∧
          r.journal.filterMap Event.value? = s.journal.filterMap Event.value? ∧
          (r.journal.filterMap Event.line?).filter (·.message ≠ "Scope cleanup failed") =
            (s.journal.filterMap Event.line?).filter (·.message ≠ "Scope cleanup failed"))
        (Session.executeWithin limit registry settings cancelled steps initial)
        (Session.executeWithin limit other settings cancelled steps initial) := by
  have hruns : ∀ (vars : State) (c d : Context), c.SameButFailures d →
      Option.Rel (fun p q => p.1 = q.1 ∧ p.2.SameButFailures q.2)
        (Engine.runWithin registry limit steps initial vars c)
        (Engine.runWithin other limit steps initial vars d) :=
    fun vars _ _ h => Engine.runWithin_corresponds Correspondence.cleanupFailures_carries hregistry
      limit steps initial vars h
  refine ⟨fun vars c d h => ?_, fun settings cancelled => ?_⟩
  · match Engine.runWithin registry limit steps initial vars c,
      Engine.runWithin other limit steps initial vars d, hruns vars c d h with
    | _, _, .none => exact .none
    | _, _, .some ⟨hresult, hend⟩ =>
        exact .some ⟨hresult, hend.depth_eq, hend.cancelled, hend⟩
  · unfold Session.executeWithin
    dsimp only
    match Engine.runWithin registry limit steps initial [] _,
      Engine.runWithin other limit steps initial [] _, hruns [] _ _ (.refl _) with
    | _, _, .none => exact .none
    | _, _, .some (a := (a, c)) (b := (b, d)) ⟨hresult, hend⟩ =>
        obtain rfl : a = b := hresult
        have hclosed := (hend.record (e := Session.endEvent (Session.outcomeOf a)) rfl).close
        have hjournal : Event.forgetFailures
              (c.record (Session.endEvent (Session.outcomeOf a))).close.journal.reverse =
            Event.forgetFailures
              (d.record (Session.endEvent (Session.outcomeOf a))).close.journal.reverse := by
          rw [Event.forgetFailures_reverse, Event.forgetFailures_reverse, hclosed.journal]
        refine .some ⟨rfl, hjournal, ?_, ?_⟩
        · rw [← Event.filterMap_value?_forgetFailures, hjournal,
            Event.filterMap_value?_forgetFailures]
        · rw [← Event.filterMap_line?_forgetFailures, hjournal,
            Event.filterMap_line?_forgetFailures]

/-- Register a cleanup that fails as given. -/
def opening (failure : Option String) : Function := fun _ _ => do
  Action.ask (.defer ⟨.str "closed", failure⟩)
  return .obj []

theorem opening_corresponds (failure failure' : Option String) (input : State) (site : CallSite) :
    (opening failure input site).run.Corresponds .cleanupFailures
      (opening failure' input site).run Eq := by
  have hdefer : Dialogue.cleanupFailures.asks (.defer ⟨.str "closed", failure⟩)
      (.defer ⟨.str "closed", failure'⟩) Eq := by
    refine AskedButFailures.defer ?_ false
    rfl
  exact .ask hdefer fun _ _ _ => .done rfl

/-- A loop of two rounds, each of which calls `opening`. -/
def openingLoop : List Step :=
  [⟨Flow.foreachId, ⟨[], [("list", .required (.arr [.null, .null]))]⟩, .empty, [],
    some [.ofCall "opening"], none⟩]

/-- Both rounds register a cleanup, which fails in one of the runs only. -/
theorem openingLoop_cleanupFailures_invisible :
    ∃ r s, Session.executeWithin 2 (Registry.standard.register "opening" (opening none)) .default
        false openingLoop [] = some r ∧
      Session.executeWithin 2 (Registry.standard.register "opening" (opening (some "busy")))
        .default false openingLoop [] = some s ∧
      (s.journal.filter (· = .cleanupFailed "busy")).length = 2 ∧
      r.outcome = s.outcome ∧
      Event.forgetFailures r.journal = Event.forgetFailures s.journal := by
  have hregistry : (Registry.standard.register "opening" (opening none)).Corresponds
      .cleanupFailures (Registry.standard.register "opening" (opening (some "busy"))) :=
    Registry.standard.corresponds_cleanupFailures_self.register "opening"
      (opening_corresponds none (some "busy"))
  have hreports : ∃ r s,
      Session.executeWithin 2 (Registry.standard.register "opening" (opening none)) .default
        false openingLoop [] = some r ∧
      Session.executeWithin 2 (Registry.standard.register "opening" (opening (some "busy")))
        .default false openingLoop [] = some s ∧
      (s.journal.filter (· = .cleanupFailed "busy")).length = 2 := ⟨_, _, rfl, rfl, rfl⟩
  obtain ⟨r, s, hr, hs, hfailed⟩ := hreports
  have hsame := (cleanupFailures_invisible hregistry 2 openingLoop []).2 .default false
  rw [hr, hs] at hsame
  obtain ⟨houtcome, hjournal, -⟩ := hsame
  exact ⟨r, s, hr, hs, hfailed, houtcome, hjournal⟩

end StepFlow
