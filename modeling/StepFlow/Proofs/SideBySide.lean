import StepFlow.Proofs.Evolution
import StepFlow.Proofs.Requests

/-
  StepFlow.Proofs.SideBySide
  ──────────────────────────
  Two runs side by side.

  The functions of the two runs ask for the same, but for requests that go
  together without being the same (`Dialogue`).  `Correspondence` is a relation
  between contexts that everything keeps that the engine does of itself, and it
  carries a dialogue if the answers to its requests keep it, too.

  `runWithin_corresponds`: then the two runs end in contexts that correspond, with
  the same outcome, or both reach their limit.  The induction is on the limit, and
  inside of it on how the programs of the functions go together.
-/

namespace StepFlow

/-! ## §1. Contexts that correspond -/

/-- A relation between the contexts of two runs that the engine keeps in both.  The frames do
not matter for it. -/
structure Correspondence where
  holds : Context → Context → Prop
  /-- Both runs are cancelled, or none is. -/
  cancelled : ∀ {c d}, holds c d → c.cancelled = d.cancelled
  withFrames : ∀ {c d}, holds c d → ∀ (fs gs : List Frame),
    holds { c with frames := fs } { d with frames := gs }
  tick : ∀ {c d}, holds c d → holds c.tick d.tick
  /-- The engine's own events are no log records. -/
  record : ∀ {c d}, holds c d → ∀ {e : Event}, e.logRecord? = none →
    holds (c.record e) (d.record e)
  openScope : ∀ {c d}, holds c d → holds c.openScope d.openScope
  /-- Two parts that leave scopes open are closed as far as they were open before. -/
  closeTo : ∀ {c d c' d'}, holds c d → holds c' d' →
    holds (c'.closeTo c.depth) (d'.closeTo d.depth)

namespace Correspondence

variable {K : Correspondence} {frames : List Frame} {c d c' d' : Context}

/-- Two contexts correspond, and the frames are the top ones of both. -/
structure Within (K : Correspondence) (frames : List Frame) (c d : Context) : Prop where
  holds : K.holds c d
  left : frames <+: c.frames
  right : frames <+: d.frames

namespace Within

/-- What leaves the frames alone. -/
theorem of_frames_eq (h : K.Within frames c d) (hholds : K.holds c' d')
    (hc : c'.frames = c.frames) (hd : d'.frames = d.frames) : K.Within frames c' d' :=
  ⟨hholds, hc ▸ h.left, hd ▸ h.right⟩

theorem tick (h : K.Within frames c d) : K.Within frames c.tick d.tick :=
  h.of_frames_eq (K.tick h.holds) c.tick_frames d.tick_frames

theorem record (h : K.Within frames c d) {e : Event} (he : e.logRecord? = none) :
    K.Within frames (c.record e) (d.record e) :=
  h.of_frames_eq (K.record h.holds he) rfl rfl

theorem recordAll {es : List Event} (hes : ∀ e ∈ es, e.logRecord? = none) :
    ∀ {c d : Context}, K.Within frames c d → K.Within frames (c.recordAll es) (d.recordAll es) := by
  induction es with
  | nil => exact fun h => h
  | cons e es ih =>
      intro c d h
      have hrest : ∀ e ∈ es, e.logRecord? = none := fun e' he' => hes e' (List.mem_cons_of_mem e he')
      exact ih hrest (h.record (hes e List.mem_cons_self))

theorem openScope (h : K.Within frames c d) : K.Within frames c.openScope d.openScope :=
  h.of_frames_eq (K.openScope h.holds) rfl rfl

theorem closeTo (h : K.Within frames c d) (h' : K.Within frames c' d') :
    K.Within frames (c'.closeTo c.depth) (d'.closeTo d.depth) :=
  h'.of_frames_eq (K.closeTo h.holds h'.holds) (c'.closeTo_frames _) (d'.closeTo_frames _)

theorem pushFrame (h : K.Within frames c d) (frame : Frame) :
    K.Within (frame :: frames) (c.pushFrame frame) (d.pushFrame frame) :=
  ⟨K.withFrames h.holds _ _, (List.prefix_cons_inj frame).mpr h.left,
    (List.prefix_cons_inj frame).mpr h.right⟩

theorem popFrame {frame : Frame} (h : K.Within (frame :: frames) c d) :
    K.Within frames c.popFrame d.popFrame := by
  have htail : ∀ {e : Context}, frame :: frames <+: e.frames → frames <+: e.popFrame.frames := by
    rintro e ⟨rest, hrest⟩
    exact ⟨rest, congrArg List.tail hrest⟩
  exact ⟨K.withFrames h.holds _ _, htail h.left, htail h.right⟩

end Within

end Correspondence

/-! ## §2. Computations side by side -/

namespace Run

variable {α β σ τ : Type} {K : Correspondence} {frames : List Frame} {R : α → β → Prop}

/-- Started in contexts that correspond, two computations end in such contexts, with results
that are related, or neither of them has a result. -/
def Corresponds (K : Correspondence) (frames : List Frame) (m : Run α) (n : Run β)
    (R : α → β → Prop) : Prop :=
  ∀ c d : Context, K.Within frames c d →
    Option.Rel (fun p q => R p.1 q.1 ∧ K.Within frames p.2 q.2) (m c) (n d)

theorem Corresponds.pure {a : α} {b : β} (hab : R a b) :
    Corresponds K frames (pure a) (pure b) R :=
  fun _ _ h => .some ⟨hab, h⟩

theorem Corresponds.exhausted : Corresponds K frames (exhausted : Run α) (exhausted : Run β) R :=
  fun _ _ _ => .none

theorem Corresponds.bind {γ δ : Type} {m : Run α} {n : Run β} {f : α → Run γ} {g : β → Run δ}
    {S : γ → δ → Prop} (hm : Corresponds K frames m n R)
    (hf : ∀ a b, R a b → Corresponds K frames (f a) (g b) S) :
    Corresponds K frames (m >>= f) (n >>= g) S := by
  intro c d h
  show Option.Rel _ ((m c).bind fun p => f p.1 p.2) ((n d).bind fun p => g p.1 p.2)
  match m c, n d, hm c d h with
  | _, _, .none => exact .none
  | _, _, .some hpq => exact hf _ _ hpq.1 _ _ hpq.2

theorem Corresponds.modify {f g : Context → Context}
    (hf : ∀ {c d}, K.Within frames c d → K.Within frames (f c) (g d)) :
    Corresponds K frames (modify f : Run Unit) (modify g : Run Unit) Eq :=
  fun _ _ h => .some ⟨rfl, hf h⟩

/-- What is read off two contexts that correspond. -/
theorem Corresponds.get :
    Corresponds K frames (get : Run Context) (get : Run Context) (K.Within frames) :=
  fun _ _ h => .some ⟨h, h⟩

theorem Corresponds.record {e : Event} (he : e.logRecord? = none) :
    Corresponds K frames (record e) (record e) Eq :=
  .modify fun h => h.record he

theorem Corresponds.inScope {m : Run α} {n : Run β} (h : Corresponds K frames m n R) :
    Corresponds K frames (inScope m) (inScope n) R := by
  intro c d hcd
  show Option.Rel _ ((m c.openScope).bind fun p => some (p.1, p.2.closeTo c.depth))
    ((n d.openScope).bind fun p => some (p.1, p.2.closeTo d.depth))
  match m c.openScope, n d.openScope, h _ _ hcd.openScope with
  | _, _, .none => exact .none
  | _, _, .some hpq => exact .some ⟨hpq.1, hcd.closeTo hpq.2⟩

theorem Corresponds.unlessCancelled {m n : Run (Outcome α)} (h : Corresponds K frames m n Eq) :
    Corresponds K frames (unlessCancelled m) (unlessCancelled n) Eq := by
  intro c d hcd
  rw [unlessCancelled_apply, unlessCancelled_apply, K.cancelled hcd.tick.holds]
  split
  · exact .some ⟨rfl, hcd.tick⟩
  · exact h _ _ hcd.tick

theorem Corresponds.rounds {round : σ → Run (σ ⊕ α)} {other : τ → Run (τ ⊕ β)}
    {S : σ → τ → Prop} (hround : ∀ s t, S s t →
      Corresponds K frames (round s) (other t) (Sum.LiftRel S R)) :
    ∀ (limit : Nat) (s : σ) (t : τ), S s t →
      Corresponds K frames (rounds round limit s) (rounds other limit t) R := by
  intro limit
  induction limit with
  | zero => intro s t _; exact .exhausted
  | succ limit ih =>
      intro s t hst
      refine .bind (hround s t hst) fun r r' hr => ?_
      cases hr with
      | inl h => exact ih _ _ h
      | inr h => exact .pure h

/-- Two parts in a frame: both find it on top when they come back. -/
theorem takeBack_corresponds {γ δ : Type} {frame : Frame} {m : Run α} {n : Run β}
    (hm : Corresponds K (frame :: frames) m n R) {lost : Run γ} {lost' : Run δ}
    {f : α → State → Run γ} {g : β → State → Run δ} {S : γ → δ → Prop}
    (hf : ∀ a b, R a b → Corresponds K frames (f a frame.state) (g b frame.state) S) :
    Corresponds K frames
      (do modify fun c => c.pushFrame frame
          let a ← m
          match (← get).frames with
          | [] => lost
          | top :: _ =>
              modify Context.popFrame
              f a top.state)
      (do modify fun c => c.pushFrame frame
          let b ← n
          match (← get).frames with
          | [] => lost'
          | top :: _ =>
              modify Context.popFrame
              g b top.state) S := by
  intro c d h
  show Option.Rel _ (Option.bind (m (c.pushFrame frame)) _) (Option.bind (n (d.pushFrame frame)) _)
  match m (c.pushFrame frame), n (d.pushFrame frame), hm _ _ (h.pushFrame frame) with
  | _, _, .none => exact .none
  | _, _, .some (a := (a, c')) (b := (b, d')) hpq =>
      obtain ⟨hab, hcd⟩ := hpq
      obtain ⟨rest, hc⟩ := hcd.left
      obtain ⟨rest', hd⟩ := hcd.right
      show Option.Rel _
        ((match c'.frames with
          | [] => lost
          | top :: _ => do
              modify Context.popFrame
              f a top.state) c')
        ((match d'.frames with
          | [] => lost'
          | top :: _ => do
              modify Context.popFrame
              g b top.state) d')
      rw [← hc, ← hd]
      exact hf a b hab _ _ hcd.popFrame

end Run

/-! ## §3. Programs side by side -/

/-- How the requests of two programs go together. -/
structure Dialogue where
  /-- Requests that are made together, and how their answers are related. -/
  asks : (r s : Request) → (r.Reply → s.Reply → Prop) → Prop
  /-- Requests that the first program makes alone. -/
  skips : Request → Prop

/-- Whether the registry has to do with a request: the engine carries it out by running
something else, or by looking up an id. -/
def Request.usesRegistry : Request → Bool
  | .call .. => true
  | .invoke .. => true
  | .runSlot .. => true
  | .runChildren .. => true
  | .runSteps .. => true
  | .isRegistered _ => true
  | _ => false

/-- Two programs that make their requests together, as the dialogue says, and whose results are
related by `R`.  Requests that use the registry are the same in both. -/
inductive Program.Corresponds (D : Dialogue) :
    {α β : Type} → Program α → Program β → (α → β → Prop) → Prop where
  /-- Both end. -/
  | done {α β : Type} {R : α → β → Prop} {a : α} {b : β} (hab : R a b) :
      Corresponds D (.done a) (.done b) R
  /-- Both use the registry. -/
  | same {α β : Type} {R : α → β → Prop} {r : Request} (hr : r.usesRegistry = true)
      {next : r.Reply → Program α} {other : r.Reply → Program β}
      (hnext : ∀ x, Corresponds D (next x) (other x) R) :
      Corresponds D (.ask r next) (.ask r other) R
  /-- Both ask. -/
  | ask {α β : Type} {R : α → β → Prop} {r s : Request} {T : r.Reply → s.Reply → Prop}
      (hrs : D.asks r s T) {next : r.Reply → Program α} {other : s.Reply → Program β}
      (hnext : ∀ x y, T x y → Corresponds D (next x) (other y) R) :
      Corresponds D (.ask r next) (.ask s other) R
  /-- The first one asks. -/
  | skip {α β : Type} {R : α → β → Prop} {r : Request} (hr : D.skips r)
      {next : r.Reply → Program α} {q : Program β} (hnext : ∀ x, Corresponds D (next x) q R) :
      Corresponds D (.ask r next) q R
  /-- Both run a part in a scope. -/
  | inScope {α β γ δ : Type} {R : α → β → Prop} {S : γ → δ → Prop} {body : Program γ}
      {body' : Program δ} (hbody : Corresponds D body body' S) {next : γ → Program α}
      {other : δ → Program β} (hnext : ∀ x y, S x y → Corresponds D (next x) (other y) R) :
      Corresponds D (.inScope body next) (.inScope body' other) R
  /-- Both repeat rounds. -/
  | rounds {α β γ δ σ τ : Type} {R : α → β → Prop} {S : γ → δ → Prop} {I : σ → τ → Prop}
      {round : σ → Program (σ ⊕ γ)} {round' : τ → Program (τ ⊕ δ)}
      (hround : ∀ s t, I s t → Corresponds D (round s) (round' t) (Sum.LiftRel I S))
      {first : σ} {first' : τ} (hfirst : I first first') {next : γ → Program α}
      {other : δ → Program β} (hnext : ∀ x y, S x y → Corresponds D (next x) (other y) R) :
      Corresponds D (.rounds round first next) (.rounds round' first' other) R

namespace Program

variable {D : Dialogue} {α β : Type} {R : α → β → Prop}

theorem Corresponds.mono {p : Program α} {q : Program β} {S : α → β → Prop}
    (hpq : p.Corresponds D q R) (hRS : ∀ a b, R a b → S a b) : p.Corresponds D q S := by
  induction hpq with
  | done hab => exact .done (hRS _ _ hab)
  | same hr _ ih => exact .same hr fun x => ih x hRS
  | ask hrs _ ih => exact .ask hrs fun x y hxy => ih x y hxy hRS
  | skip hr _ ih => exact .skip hr fun x => ih x hRS
  | inScope hbody _ _ ih => exact .inScope hbody fun x y hxy => ih x y hxy hRS
  | rounds hround hfirst _ _ ih => exact .rounds hround hfirst fun x y hxy => ih x y hxy hRS

/-- A program goes together with itself, if its requests do. -/
theorem Uses.corresponds {allowed : Request → Prop}
    (hallowed : ∀ r, allowed r → r.usesRegistry = true ∨ D.asks r r Eq) {p : Program α}
    (hp : p.Uses allowed) : p.Corresponds D p Eq := by
  induction p with
  | done a => exact .done rfl
  | ask r next ih =>
      rcases hallowed r hp.1 with hr | hr
      · exact .same hr fun x => ih x (hp.2 x)
      · refine .ask hr fun x y hxy => ?_
        subst hxy
        exact ih x (hp.2 x)
  | inScope body next ihbody ih =>
      refine .inScope (ihbody hp.1) fun x y hxy => ?_
      subst hxy
      exact ih x (hp.2 x)
  | rounds round first next ihround ih =>
      have hround : ∀ s t, s = t → (round s).Corresponds D (round t) (Sum.LiftRel Eq Eq) := by
        rintro s t rfl
        refine (ihround s (hp.1 s)).mono ?_
        rintro (x | x) _ rfl
        · exact .inl rfl
        · exact .inr rfl
      refine .rounds hround rfl fun x y hxy => ?_
      subst hxy
      exact ih x (hp.2 x)

end Program

/-- A correspondence that the answers to the requests of a dialogue keep. -/
structure Correspondence.Carries (K : Correspondence) (D : Dialogue) : Prop where
  asks : ∀ {r s : Request} {T : r.Reply → s.Reply → Prop}, D.asks r s T →
    ∀ (registry other : Registry) (invoker invoker' : Invoker) (frames : List Frame),
      Run.Corresponds K frames (Engine.answer registry invoker r) (Engine.answer other invoker' s) T
  skips : ∀ {r : Request}, D.skips r →
    ∀ (registry : Registry) (invoker : Invoker) (frames : List Frame),
      Run.Corresponds K frames (Engine.answer registry invoker r) (pure ()) fun _ _ => True

/-! ## §4. The engine -/

/-- Two entries that declare the same, and whose functions correspond. -/
structure Entry.Corresponds (D : Dialogue) (e e' : Entry) : Prop where
  id : e.id = e'.id
  outputs : e.outputs = e'.outputs
  function : ∀ input site,
    (e.function input site).run.Corresponds D (e'.function input site).run Eq

theorem Entry.Corresponds.restrict {D : Dialogue} {e e' : Entry} (h : e.Corresponds D e') :
    e.restrict = e'.restrict := by
  funext v
  unfold Entry.restrict
  rw [h.outputs]

/-- Two registries with the same bindings, and with entries that correspond under the same
ids. -/
structure Registry.Corresponds (D : Dialogue) (registry other : Registry) : Prop where
  bindings : registry.bindings = other.bindings
  entries : ∀ id, Option.Rel (Entry.Corresponds D) (registry.get? id) (other.get? id)

namespace Registry.Corresponds

variable {D : Dialogue} {registry other : Registry}

/-- The same functions on both sides, if their requests go together with themselves. -/
theorem refl (h : ∀ id entry, registry.get? id = some entry → ∀ input site,
    (entry.function input site).run.Corresponds D (entry.function input site).run Eq) :
    registry.Corresponds D registry := by
  refine ⟨rfl, fun id => ?_⟩
  cases hget : registry.get? id with
  | none => exact .none
  | some entry => exact .some ⟨rfl, rfl, h id entry hget⟩

/-- One more function on each side. -/
theorem register (h : registry.Corresponds D other) (id : String) {function function' : Function}
    (hfunction : ∀ input site,
      (function input site).run.Corresponds D (function' input site).run Eq) :
    (registry.register id function).Corresponds D (other.register id function') := by
  refine ⟨h.bindings, fun key => ?_⟩
  show Option.Rel _ (Dict.get? (Dict.insert registry.functions id ⟨id, [], function⟩) key)
    (Dict.get? (Dict.insert other.functions id ⟨id, [], function'⟩) key)
  by_cases hkey : id = key
  · subst hkey
    rw [Dict.get?_insert_self, Dict.get?_insert_self]
    exact .some ⟨rfl, rfl, hfunction⟩
  · rw [Dict.get?_insert_of_ne _ _ hkey, Dict.get?_insert_of_ne _ _ hkey]
    exact h.entries key

theorem has (h : registry.Corresponds D other) (id : String) :
    registry.has id = other.has id := by
  show (registry.get? id).isSome = (other.get? id).isSome
  match registry.get? id, other.get? id, h.entries id with
  | _, _, .none => rfl
  | _, _, .some _ => rfl

/-- Both fail to find a function for the id, or they find entries that correspond. -/
theorem resolve (h : registry.Corresponds D other) (id : String) :
    (∃ e, registry.resolve id = .error e ∧ other.resolve id = .error e) ∨
      ∃ found found', registry.resolve id = .ok found ∧ other.resolve id = .ok found' ∧
        found.contract = found'.contract ∧ found.entry.Corresponds D found'.entry := by
  have hbinding : registry.binding? id = other.binding? id :=
    congrArg (Dict.get? · id) h.bindings
  unfold Registry.resolve
  match registry.get? id, other.get? id, h.entries id with
  | _, _, .some hentry => exact .inr ⟨_, _, rfl, rfl, rfl, hentry⟩
  | _, _, .none =>
      rw [hbinding]
      by_cases hid : isContract id = true
      · simp only [hid, if_true]
        cases other.binding? id with
        | none => exact .inl ⟨_, rfl, rfl⟩
        | some target =>
            simp only [Option.bind_some]
            match registry.get? target, other.get? target, h.entries target with
            | _, _, .none => exact .inl ⟨_, rfl, rfl⟩
            | _, _, .some hentry => exact .inr ⟨_, _, rfl, rfl, rfl, hentry⟩
      · simp only [hid]
        exact .inl ⟨_, rfl, rfl⟩

end Registry.Corresponds

namespace Engine

variable {K : Correspondence} {frames : List Frame}

theorem skipped_corresponds (sources : List Value) :
    Run.Corresponds K frames (modify fun c => c.recordAll (sources.map .spreadSkipped))
      (modify fun c => c.recordAll (sources.map .spreadSkipped)) Eq := by
  refine .modify fun h => h.recordAll fun e he => ?_
  obtain ⟨v, -, rfl⟩ := List.mem_map.mp he
  rfl

section Callers

variable {caller other : Caller} (hcaller : ∀ frame frames id input site,
  Run.Corresponds K (frame :: frames) (caller id input site) (other id input site) Eq)

include hcaller

theorem runStep_corresponds (vars : State) (index : Nat) (step : Step) (state : State) :
    Run.Corresponds K frames (runStep caller vars index step state)
      (runStep other vars index step state) Eq := by
  refine .unlessCancelled (.bind (.record rfl) fun _ _ _ =>
    .bind (skipped_corresponds _) fun _ _ _ => ?_)
  refine Run.takeBack_corresponds (f := fun result state => mergeStep step state result)
    (g := fun result state => mergeStep step state result)
    (.inScope (hcaller ⟨step.slotMap, state, vars⟩ frames _ _ _)) fun result result' hresult => ?_
  subst hresult
  cases result with
  | error i => exact .pure rfl
  | ok v => exact .bind (skipped_corresponds _) fun _ _ _ => .pure rfl

theorem runSteps_corresponds (steps : List Step) (state vars : State) :
    Run.Corresponds K frames (runSteps caller steps state vars) (runSteps other steps state vars)
      Eq := by
  unfold runSteps
  generalize 0 = index
  induction steps generalizing index state with
  | nil => exact .pure rfl
  | cons step rest ih =>
      refine .bind (runStep_corresponds hcaller vars index step state) fun r r' hr => ?_
      subst hr
      cases r with
      | ok next => exact ih next _
      | error i => exact .pure rfl

theorem runChildren_corresponds (frame : Frame) (steps : List Step) (state vars : Option State) :
    Run.Corresponds K (frame :: frames) (runChildren caller steps state vars)
      (runChildren other steps state vars) Eq := by
  refine .unlessCancelled (.bind .get fun c d h => ?_)
  obtain ⟨rest, hc⟩ := h.left
  obtain ⟨rest', hd⟩ := h.right
  rw [← hc, ← hd]
  exact .inScope (runSteps_corresponds hcaller _ _ _)

theorem runSlot_corresponds (frame : Frame) (name : String) (state vars : Option State) :
    Run.Corresponds K (frame :: frames) (runSlot caller name state vars)
      (runSlot other name state vars) Eq := by
  refine .unlessCancelled (.bind .get fun c d h => ?_)
  obtain ⟨rest, hc⟩ := h.left
  obtain ⟨rest', hd⟩ := h.right
  rw [← hc, ← hd]
  exact .bind (.record rfl) fun _ _ _ => .inScope (runSteps_corresponds hcaller _ _ _)

end Callers

section Invokers

variable {D : Dialogue} {registry other : Registry} (hregistry : registry.Corresponds D other)
  {invoker invoker' : Invoker} (hinvoker : ∀ frame frames entry entry',
    entry.Corresponds D entry' → ∀ input site, Run.Corresponds K (frame :: frames)
      (invoker entry input site) (invoker' entry' input site) Eq)

include hregistry hinvoker

theorem invoke_corresponds (frame : Frame) (frames : List Frame) (id : String) (input : State)
    (site : CallSite) :
    Run.Corresponds K (frame :: frames) (invoke registry invoker id input site)
      (invoke other invoker' id input site) Eq := by
  unfold invoke
  obtain ⟨e, h, h'⟩ | ⟨found, found', h, h', hcontract, hentry⟩ := hregistry.resolve id
  · rw [h, h']
    exact .pure rfl
  · rw [h, h']
    dsimp only
    rw [hcontract, hentry.id]
    cases found'.contract with
    | none => exact hinvoker _ _ _ _ hentry _ _
    | some contract => exact .bind (.record rfl) fun _ _ _ => hinvoker _ _ _ _ hentry _ _

theorem call_corresponds (frame : Frame) (frames : List Frame) (id : String) (input : State)
    (site : CallSite) :
    Run.Corresponds K (frame :: frames) (call registry invoker id input site)
      (call other invoker' id input site) Eq := by
  refine .unlessCancelled (invoke_corresponds hregistry ?_ frame frames id input site)
  intro frame frames entry entry' hentry input site
  rw [hentry.id]
  exact .bind (.record rfl) fun _ _ _ => hinvoker _ _ _ _ hentry _ _

/-- What runs something else or looks up an id is the same in both. -/
theorem answer_corresponds (frame : Frame) (frames : List Frame) :
    ∀ (r : Request), r.usesRegistry = true →
      Run.Corresponds K (frame :: frames) (answer registry invoker r) (answer other invoker' r) Eq
  | .call id input site, _ => call_corresponds hregistry hinvoker frame frames id input site
  | .invoke id input site, _ => invoke_corresponds hregistry hinvoker frame frames id input site
  | .runSlot name state vars, _ =>
      runSlot_corresponds (call_corresponds hregistry hinvoker) frame name state vars
  | .runChildren steps state vars, _ =>
      runChildren_corresponds (call_corresponds hregistry hinvoker) frame steps state vars
  | .runSteps steps state vars, _ =>
      runSteps_corresponds (call_corresponds hregistry hinvoker) steps state vars
  | .isRegistered id, _ => .pure (hregistry.has id)

end Invokers

/-- Programs that correspond, with answers that do. -/
theorem perform_corresponds {D : Dialogue} {answer other : (r : Request) → Run r.Reply}
    (hsame : ∀ r, r.usesRegistry = true → Run.Corresponds K frames (answer r) (other r) Eq)
    (hasks : ∀ {r s : Request} {T : r.Reply → s.Reply → Prop}, D.asks r s T →
      Run.Corresponds K frames (answer r) (other s) T)
    (hskips : ∀ {r}, D.skips r → Run.Corresponds K frames (answer r) (pure ()) fun _ _ => True)
    (limit : Nat) {α β : Type} {p : Program α} {q : Program β} {R : α → β → Prop}
    (hpq : p.Corresponds D q R) :
    Run.Corresponds K frames (perform answer limit p) (perform other limit q) R := by
  induction hpq with
  | done hab => exact .pure hab
  | same hr _ ih =>
      refine .bind (hsame _ hr) fun x y hxy => ?_
      subst hxy
      exact ih x
  | ask hrs _ ih => exact .bind (hasks hrs) ih
  | skip hr _ ih => exact .bind (hskips hr) fun x _ _ => ih x
  | inScope _ _ ihbody ih => exact .bind (.inScope ihbody) ih
  | rounds _ hfirst _ ihround ih => exact .bind (.rounds ihround limit _ _ hfirst) ih

variable {D : Dialogue} {registry other : Registry}

theorem enter_corresponds (hcarries : K.Carries D) (hregistry : registry.Corresponds D other) :
    ∀ (limit : Nat) (frame : Frame) (frames : List Frame) (entry entry' : Entry),
      entry.Corresponds D entry' → ∀ input site, Run.Corresponds K (frame :: frames)
        (enter registry limit entry input site) (enter other limit entry' input site) Eq := by
  -- on the limit: what a function calls has one less
  intro limit
  induction limit with
  | zero => intro frame frames entry entry' _ input site; exact .exhausted
  | succ limit ih =>
      intro frame frames entry entry' hentry input site
      have hprogram := perform_corresponds
        (answer_corresponds hregistry ih frame frames)
        (fun hrs => hcarries.asks hrs registry other _ _ _)
        (fun hr => hcarries.skips hr registry _ _) limit (hentry.function input site)
      refine .bind hprogram fun result result' hresult => ?_
      rw [hresult, hentry.restrict]
      exact .pure rfl

/-- **Two runs side by side.**  Over registries that correspond, with contexts that correspond
in a way which the engine's answers keep, a sequence has the same outcome in both runs and
leaves contexts that correspond, or both runs reach their limit. -/
theorem runWithin_corresponds (hcarries : K.Carries D) (hregistry : registry.Corresponds D other)
    (limit : Nat) (steps : List Step) (state vars : State) {c d : Context} (h : K.holds c d) :
    Option.Rel (fun p q => p.1 = q.1 ∧ K.holds p.2 q.2)
      (runWithin registry limit steps state vars c) (runWithin other limit steps state vars d) := by
  have hcaller := call_corresponds hregistry (enter_corresponds hcarries hregistry limit)
  have hwithin : K.Within [] c d := ⟨h, List.nil_prefix, List.nil_prefix⟩
  have hrun : Option.Rel (fun p q => p.1 = q.1 ∧ K.Within [] p.2 q.2)
      (runWithin registry limit steps state vars c) (runWithin other limit steps state vars d) :=
    runSteps_corresponds hcaller steps state vars c d hwithin
  match runWithin registry limit steps state vars c, runWithin other limit steps state vars d,
    hrun with
  | _, _, .none => exact .none
  | _, _, .some ⟨hresult, hend⟩ => exact .some ⟨hresult, hend.holds⟩

end Engine

end StepFlow
