import TemplatePaint.Session.Event

/-!
# What the operations of a session do

One equation for each operation from which the events of a session are put
together. They all act on three things alone: the store, what waits to go
quiet, and the host, which changes by nothing but calls (`tellAll`).

* `touch_eq`, `advance_eq`, `flip_eq`: a document starts a new generation
  (`renew`);
* `repaint_eq`: a pass asks for the folds if it needs them (`foldsFor`,
  `asksFor`), keeps what is expanded and awaited (`stateAfter`), and paints what
  the features paint over the snapshot (`paintsFor`);
* `delivered_eq`: the answer that is awaited paints the frames.

What a feature paints in a pass is a function of the snapshot, the toggles,
the settings and the folds (`Pass.over`).
-/

namespace TemplatePaint

/-- The folds that an answer brings at once; a host that fails to know them has none. -/
def FoldAnswer.folds? : FoldAnswer → Option (List LineRange)
  | .ready folds => some folds
  | .pending => none
  | .failed _ => some []

/-- The class attribute that is expanded under the cursor of a snapshot. -/
def Snapshot.expansion (snapshot : Snapshot) (toggles : Toggles) : Option TextRange :=
  if toggles.folding && !snapshot.hasSelection then
    ((Span.scan snapshot.text [.classAttribute]).find? (·.range.touches snapshot.cursor)).map
      (·.range)
  else none

/-- The pass over a snapshot. -/
def Pass.over (snapshot : Snapshot) (toggles : Toggles) (settings : Settings)
    (folds : List LineRange) : Pass :=
  { snapshot, folds
    emphasis := settings.emphasis
    expanded := snapshot.expansion toggles }

/-- The call that hands an edit to the host. -/
def Edit.call (doc : String) (e : Edit) : HostCall := .paint doc e.group e.regions

namespace Feature

/-- What a feature paints in a pass: one that is off clears its groups, and one whose folds are
awaited leaves them. -/
def paints (toggles : Toggles) (awaiting : Bool) (pass : Pass) (f : Feature) : List Edit :=
  if !f.isEnabled toggles then Edit.clearAll f.groups
  else if f.needsFolds && awaiting then []
  else f.edits pass

theorem any_needsFolds (toggles : Toggles) :
    (all.any fun f => f.needsFolds && f.isEnabled toggles) = toggles.frames := by
  cases h : toggles.frames <;>
    simp [all, needsFolds, isEnabled, switch?, Toggles.get, h]

theorem filter_needsFolds (toggles : Toggles) :
    (all.filter fun f => f.needsFolds && f.isEnabled toggles) =
      if toggles.frames then [frameLinks] else [] := by
  cases h : toggles.frames <;>
    simp [all, needsFolds, isEnabled, switch?, Toggles.get, h]

/-- What the frames paint hangs on the snapshot and the folds alone. -/
theorem edits_frameLinks_congr {p q : Pass} (hs : p.snapshot = q.snapshot)
    (hf : p.folds = q.folds) : frameLinks.edits p = frameLinks.edits q := by
  obtain ⟨snapshot, emphasis, expanded, folds⟩ := p
  obtain ⟨snapshot', emphasis', expanded', folds'⟩ := q
  obtain rfl : snapshot = snapshot' := hs
  obtain rfl : folds = folds' := hf
  rfl

end Feature

namespace Session

variable {σ : Type} [Host σ]

/-- Tells the host to do one thing after the other. -/
def tellAll (s : Session σ) (calls : List HostCall) : Session σ :=
  { s with host := calls.foldl Host.perform s.host }

@[simp] theorem tellAll_store (s : Session σ) (calls : List HostCall) :
    (s.tellAll calls).store = s.store := rfl

@[simp] theorem tellAll_debouncer (s : Session σ) (calls : List HostCall) :
    (s.tellAll calls).debouncer = s.debouncer := rfl

theorem tellAll_append (s : Session σ) (cs cs' : List HostCall) :
    s.tellAll (cs ++ cs') = (s.tellAll cs).tellAll cs' := by
  simp only [tellAll, List.foldl_append]

theorem paint_eq (s : Session σ) (doc : String) (edits : List Edit) :
    s.paint doc edits = s.tellAll (edits.map (·.call doc)) := by
  induction edits generalizing s with
  | nil => rfl
  | cons e es ih => exact ih (s.tell (e.call doc))

/-! ## New generations -/

/-- A document starts a new generation, with these toggles. -/
def renew (s : Session σ) (doc : String) (toggles : Toggles) : Session σ :=
  s.onStore (·.change doc fun d => { d with toggles, generation := d.generation + 1 })

/-- The toggles that the host has stored for a document, if they outlive sessions. -/
def storedToggles? (s : Session σ) (doc : String) : Option Toggles :=
  if s.settings.persistence = .always then
    (Host.stored? s.host doc).bind fun raw => (Toggles.ofStored raw).toOption
  else none

/-- The toggles of a document once it is tracked: those it has, or else the stored ones. -/
def togglesOnTrack (s : Session σ) (doc : String) : Toggles :=
  match s.store.get? doc with
  | some d => d.toggles
  | none => (s.storedToggles? doc).getD .default

omit [Host σ] in
theorem advance_eq (s : Session σ) (doc : String) :
    s.advance doc = s.renew doc (s.store.togglesOf doc) := rfl

theorem restoreToggles_eq (s : Session σ) (doc : String) :
    s.restoreToggles doc = match s.storedToggles? doc with
      | some toggles => s.onStore (·.change doc fun d => { d with toggles })
      | none => s := by
  rw [restoreToggles, storedToggles?]
  split
  · cases Host.stored? s.host doc with
    | none => rfl
    | some raw =>
      simp only [Store.restore, Option.bind_some]
      cases Toggles.ofStored raw <;> rfl
  · rfl

omit [Host σ] in
/-- Two changes of the store with the same view are the same. -/
theorem onStore_congr (s : Session σ) {f g : Store → Store}
    (h : ∀ doc, (f s.store).get? doc = (g s.store).get? doc) : s.onStore f = s.onStore g :=
  congrArg (fun store => { s with store }) (KeyMap.ext h)

/-- Tracking a document changes nothing but its toggles, and these only if it is new. -/
theorem track_eq (s : Session σ) (doc : String) :
    s.track doc = s.onStore (·.change doc fun d => { d with toggles := s.togglesOnTrack doc }) := by
  cases hd : s.store.get? doc with
  | some d =>
    have hc : s.store.contains doc = true := by rw [KeyMap.contains, hd]; rfl
    have ht : s.togglesOnTrack doc = d.toggles := by rw [togglesOnTrack, hd]
    rw [track, if_pos hc, ht]
    refine s.onStore_congr (f := id) fun doc' => ?_
    rw [Store.get?_change, Store.stateOf_of_get? hd]
    split
    · rename_i e
      rw [e, id, hd]
    · rfl
  | none =>
    have hc : ¬s.store.contains doc = true := by rw [KeyMap.contains, hd]; simp
    have hs : s.store.stateOf doc = .fresh := by rw [Store.stateOf, hd]; rfl
    have ht : s.togglesOnTrack doc = (s.storedToggles? doc).getD .default := by
      rw [togglesOnTrack, hd]
    rw [track, if_neg hc, restoreToggles_eq, ht,
      show (s.onStore (·.track doc)).storedToggles? doc = s.storedToggles? doc from rfl]
    cases s.storedToggles? doc with
    | some toggles =>
      refine s.onStore_congr (f := fun store =>
        (store.track doc).change doc fun d => { d with toggles }) fun doc' => ?_
      rw [Store.track, Store.change_change]
      rfl
    | none =>
      refine s.onStore_congr fun doc' => ?_
      rw [Store.track, Store.get?_change, Store.get?_change, hs]
      rfl

theorem touch_eq (s : Session σ) (doc : String) :
    s.touch doc = s.renew doc (s.togglesOnTrack doc) := by
  rw [touch, track_eq, advance, renew]
  simp only [onStore, Store.advance, Store.change_change]
  rfl

theorem flip_eq (s : Session σ) (doc : String) (switch : Switch) :
    ((s.track doc).onStore (·.flip doc switch)).advance doc =
      s.renew doc ((s.togglesOnTrack doc).flip switch) := by
  rw [track_eq, advance, renew]
  simp only [onStore, Store.advance, Store.flip, Store.change_change]
  rfl

/-! ## Passes -/

/-- The folds that a pass with these toggles has at once; none are at hand if they are needed and
the host will answer the request later. -/
def foldsFor (s : Session σ) (toggles : Toggles) (request : FoldRequest) :
    Option (List LineRange) :=
  if toggles.frames then (Host.answer s.host request).folds? else some []

/-- What a pass asks of the host: the folds, if they are needed. -/
def asksFor (toggles : Toggles) (request : FoldRequest) : List HostCall :=
  if toggles.frames then [.requestFolds request] else []

/-- What the features paint in a pass over a snapshot. -/
def paintsFor (s : Session σ) (toggles : Toggles) (request : FoldRequest) (snapshot : Snapshot) :
    List Edit :=
  let folds := s.foldsFor toggles request
  Feature.all.flatMap
    (Feature.paints toggles folds.isNone (.over snapshot toggles s.settings (folds.getD [])))

/-- The state of a document after a pass: the answer is awaited if it is not at hand. -/
def stateAfter (s : Session σ) (toggles : Toggles) (request : FoldRequest) (snapshot : Snapshot) :
    DocumentState where
  toggles := toggles
  generation := request.generation
  pending := if (s.foldsFor toggles request).isNone then some request.generation else none
  expanded := snapshot.expansion toggles

theorem runFeature_eq (doc : String) (snapshot : Snapshot) (folds : Option (List LineRange))
    (s : Session σ) (f : Feature) :
    runFeature doc snapshot folds s f = s.tellAll ((f.paints (s.store.togglesOf doc) folds.isNone
      (s.passOver doc snapshot (folds.getD []))).map (·.call doc)) := by
  rw [runFeature, Feature.paints]
  split
  · exact paint_eq ..
  · split
    · rfl
    · exact paint_eq ..

theorem foldl_runFeature_eq (doc : String) (snapshot : Snapshot) (folds : Option (List LineRange))
    (fs : List Feature) (s : Session σ) :
    fs.foldl (runFeature doc snapshot folds) s =
      s.tellAll ((fs.flatMap (Feature.paints (s.store.togglesOf doc) folds.isNone
        (s.passOver doc snapshot (folds.getD [])))).map (·.call doc)) := by
  induction fs generalizing s with
  | nil => rfl
  | cons f fs ih =>
    rw [List.foldl_cons, ih, runFeature_eq, List.flatMap_cons, List.map_append, tellAll_append]
    rfl

theorem askFolds_eq (s : Session σ) (doc : String) (h : s.store.contains doc = true) :
    let folds := s.foldsFor (s.store.togglesOf doc) (s.store.requestFor doc)
    s.askFolds doc = (folds, (s.onStore (·.change doc fun d => { d with
      pending := if folds.isNone then some d.generation else none })).tellAll
        (asksFor (s.store.togglesOf doc) (s.store.requestFor doc))) := by
  rw [askFolds, Feature.any_needsFolds, foldsFor, asksFor]
  cases (s.store.togglesOf doc).frames with
  | false => simp only [onStore, Store.dropRequest_eq_change h]; rfl
  | true =>
    have settled : ((s.store.await doc).settle (s.store.requestFor doc)) =
        s.store.change doc fun d => { d with pending := none } := by
      have ha : (s.store.await doc).awaits (s.store.requestFor doc) = true :=
        (Store.awaits_iff _ _).2 ⟨_, (Store.get?_change ..).trans (if_pos rfl), rfl, rfl⟩
      have hc : (s.store.await doc).contains doc = true := by
        rw [KeyMap.contains, Store.await, Store.get?_change, if_pos rfl]
        rfl
      rw [Store.settle, if_pos ha, show (s.store.requestFor doc).document = doc from rfl,
        Store.dropRequest_eq_change hc, Store.await, Store.change_change]
      rfl
    simp only [if_true, show Host.answer (s.onStore (·.await doc)).host =
      Host.answer s.host from rfl]
    cases Host.answer s.host (s.store.requestFor doc) with
    | ready folds => simp only [onStore, tell, settled]; rfl
    | pending => rfl
    | failed reason => simp only [onStore, tell, settled]; rfl

/-- A pass over a document that the host does not show does nothing. -/
theorem repaint_of_none {s : Session σ} {doc : String} (h : Host.snapshot? s.host doc = none) :
    s.repaint doc = s := by
  rw [repaint, h]

/-- A pass asks for the folds, keeps what is expanded and awaited, and paints. -/
theorem repaint_eq {s : Session σ} {doc : String} {snapshot : Snapshot}
    (h : Host.snapshot? s.host doc = some snapshot) {toggles : Toggles} {request : FoldRequest}
    (ht : s.store.togglesOf doc = toggles) (hr : s.store.requestFor doc = request) :
    s.repaint doc =
      (s.onStore (·.change doc fun _ => s.stateAfter toggles request snapshot)).tellAll
        (asksFor toggles request ++ (s.paintsFor toggles request snapshot).map (·.call doc)) := by
  subst ht hr
  obtain ⟨s₁, hs⟩ : ∃ s₁, s₁ = s.onStore (·.expand doc (s.expansion doc snapshot)) := ⟨_, rfl⟩
  have state : s₁.store.stateOf doc =
      { s.store.stateOf doc with expanded := snapshot.expansion (s.store.togglesOf doc) } := by
    rw [hs, onStore, Store.expand, Store.stateOf_change, if_pos rfl]
    rfl
  have tracked : s₁.store.contains doc = true := by
    rw [hs, onStore, KeyMap.contains, Store.expand, Store.get?_change, if_pos rfl]
    rfl
  have toggles : s₁.store.togglesOf doc = s.store.togglesOf doc := congrArg (·.toggles) state
  have request : s₁.store.requestFor doc = s.store.requestFor doc := by
    rw [Store.requestFor, state, Store.requestFor]
  have folds : s₁.foldsFor = s.foldsFor := by rw [hs]; rfl
  have asked := askFolds_eq s₁ doc tracked
  rw [toggles, request, folds] at asked
  have passed : (s₁.askFolds doc).2 = (s.onStore (·.change doc fun _ =>
      s.stateAfter (s.store.togglesOf doc) (s.store.requestFor doc) snapshot)).tellAll
        (asksFor (s.store.togglesOf doc) (s.store.requestFor doc)) := by
    rw [asked, hs]
    simp only [onStore, Store.expand, Store.change_change]
    exact congrArg (fun store => tellAll { s with store } _) (Store.change_congr rfl)
  rw [repaint, h]
  show Feature.all.foldl (runFeature doc snapshot ((s.onStore _).askFolds doc).1)
    ((s.onStore _).askFolds doc).2 = _
  have after : (s.store.change doc fun _ => s.stateAfter (s.store.togglesOf doc)
      (s.store.requestFor doc) snapshot).stateOf doc =
      s.stateAfter (s.store.togglesOf doc) (s.store.requestFor doc) snapshot :=
    (Store.stateOf_change ..).trans (if_pos rfl)
  have toggles' : (s.store.change doc fun _ => s.stateAfter (s.store.togglesOf doc)
      (s.store.requestFor doc) snapshot).togglesOf doc = s.store.togglesOf doc := by
    rw [Store.togglesOf, after, stateAfter]
  rw [← hs, foldl_runFeature_eq, passed, asked, tellAll_append, passOver, tellAll_store, onStore,
    after, toggles']
  rfl

/-! ## Answers delivered later -/

/-- Nothing happens when an answer that is not awaited is delivered. -/
theorem delivered_of_not_awaits {s : Session σ} {request : FoldRequest}
    (h : s.store.awaits request = false) (folds : Except String (List LineRange)) :
    s.delivered request folds = s := by
  rw [delivered, h]
  rfl

/-- The answer that is awaited is taken, and paints the frames of a document that is shown. -/
theorem delivered_eq {s : Session σ} {request : FoldRequest} {snapshot : Snapshot}
    (ha : s.store.awaits request = true) (ho : Host.isOpen s.host request.document = true)
    (hs : Host.snapshot? s.host request.document = some snapshot)
    (folds : Except String (List LineRange)) :
    s.delivered request folds = (s.onStore (·.settle request)).tellAll
      (if (s.store.togglesOf request.document).frames then
        (Feature.frameLinks.edits
          (s.passOver request.document snapshot (folds.toOption.getD []))).map
          (·.call request.document)
      else []) := by
  have state : (s.store.settle request).stateOf request.document =
      { s.store.stateOf request.document with pending := none } := by
    rw [Store.settle_eq_change ha, Store.stateOf_change, if_pos rfl]
  have toggles : (s.store.settle request).togglesOf request.document =
      s.store.togglesOf request.document := congrArg (·.toggles) state
  rw [delivered, if_pos ha]
  simp only [onStore, ho, hs, if_true, toggles, Feature.filter_needsFolds]
  cases hf : (s.store.togglesOf request.document).frames with
  | false => rfl
  | true =>
    have on : Feature.frameLinks.isEnabled (s.store.togglesOf request.document) = true := by
      simpa [Feature.isEnabled, Feature.switch?, Toggles.get] using hf
    simp only [if_true, List.foldl_cons, List.foldl_nil, runFeature_eq, toggles, Feature.paints, on]
    rw [passOver, state]
    rfl

/-- The answer that is awaited is taken even if nothing can be painted. -/
theorem delivered_of_hidden {s : Session σ} {request : FoldRequest}
    (ha : s.store.awaits request = true)
    (h : Host.isOpen s.host request.document = false ∨
      Host.snapshot? s.host request.document = none)
    (folds : Except String (List LineRange)) :
    s.delivered request folds = s.onStore (·.settle request) := by
  rw [delivered, if_pos ha]
  rcases h with h | h
  · simp only [onStore, h, Bool.false_eq_true, if_false]
  · simp only [onStore, h, ite_self]

end Session

end TemplatePaint
