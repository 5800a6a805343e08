import TemplatePaint.Proofs.Session.Answering
import TemplatePaint.Proofs.Session.Picture

/-!
# Folds delivered later

It does not matter whether the host answers the requests of an event at once
or later. The two sessions are alike in all but the documents whose folds are
awaited, and these are alike as soon as the frames are painted (`Alike`). Each
visit keeps them alike (`Alike.visit`), and a delivered answer settles one
document (`Alike.delivered`); so when all answers are delivered, in whatever
order, the sessions agree: `delivered_agrees_with_at_once`.
-/

namespace TemplatePaint

namespace Feature

/-- With the frames, all is painted at once but what is painted when the folds are delivered. -/
theorem paints_of_frames {toggles : Toggles} (h : toggles.frames = true) (snapshot : Snapshot)
    (settings : Settings) (folds : List LineRange) :
    all.flatMap (paints toggles false (.over snapshot toggles settings folds)) =
      all.flatMap (paints toggles true (.over snapshot toggles settings [])) ++
        frameLinks.edits (.over snapshot toggles settings folds) := by
  have on : frameLinks.isEnabled toggles = true := by
    simpa [isEnabled, switch?, Toggles.get] using h
  have painted (pass : Pass) : frameLinks.paints toggles false pass = frameLinks.edits pass := by
    rw [paints, on]
    rfl
  have awaited (pass : Pass) : frameLinks.paints toggles true pass = [] := by
    rw [paints, on]
    rfl
  have others {f : Feature} (hf : f ≠ frameLinks) :
      f.paints toggles false (.over snapshot toggles settings folds) =
        f.paints toggles true (.over snapshot toggles settings []) := by
    cases f with
    | frameLinks => exact absurd rfl hf
    | _ => rfl
  simp only [all, List.flatMap_cons, List.flatMap_nil, painted, awaited, List.append_nil,
    List.append_assoc]
  rw [others (by decide), others (by decide), others (by decide), others (by decide)]

end Feature

namespace Session

variable {σ : Type} [Host σ] {before : Recorded (Answering σ)}
  {later atOnce : Session (Recorded (Answering σ))} {doc : String}

/-! ## Alike but for what is awaited -/

/-- A document is the same in two sessions, and nothing is awaited for it. -/
structure Agree (before : Recorded (Answering σ)) (doc : String)
    (later atOnce : Session (Recorded (Answering σ))) : Prop where
  state : later.store.get? doc = atOnce.store.get? doc
  paint : ∀ g, lastPainted? later.host.calls doc g = lastPainted? atOnce.host.calls doc g
  settled : lastAnswer? (later.host.answersSince before) doc ≠ none →
    (later.store.stateOf doc).pending = none

/-- A document that is shown awaits in the first session the folds that it has in the second; once
the frames are painted with them, it shows the same. -/
structure Awaited (before : Recorded (Answering σ)) (folds : List LineRange) (doc : String)
    (later atOnce : Session (Recorded (Answering σ))) (d : DocumentState) (snapshot : Snapshot) :
    Prop where
  awaiting : later.store.get? doc = some { d with pending := some d.generation }
  answered : atOnce.store.get? doc = some { d with pending := none }
  frames : d.toggles.frames = true
  isOpen : Host.isOpen later.host doc = true
  shown : Host.snapshot? later.host doc = some snapshot
  asked : ∃ answer, lastAnswer? (later.host.answersSince before) doc =
    some (⟨doc, d.generation⟩, answer)
  paint : ∀ g, lastPainted? (((Feature.frameLinks.edits
      (.over snapshot d.toggles later.settings folds)).map (·.call doc)).reverse ++
        later.host.calls) doc g = lastPainted? atOnce.host.calls doc g

/-- Two sessions, in one of which the folds are delivered later, and in the other at once. -/
structure Alike (before : Recorded (Answering σ))
    (folds : String → Except String (List LineRange))
    (later atOnce : Session (Recorded (Answering σ))) : Prop where
  language : later.language = atOnce.language
  settings : later.settings = atOnce.settings
  debouncer : later.debouncer = atOnce.debouncer
  active : later.active = atOnce.active
  isOpen : ∀ doc, Host.isOpen later.host doc = Host.isOpen atOnce.host doc
  shown : ∀ doc, Host.snapshot? later.host doc = Host.snapshot? atOnce.host doc
  stored : ∀ doc, Host.stored? later.host doc = Host.stored? atOnce.host doc
  pending : ∀ request, Host.answer later.host request = .pending
  ready : ∀ request, Host.answer atOnce.host request = .ofResult (folds request.document)
  grown : before.answers <:+ later.host.answers
  each : ∀ doc, Agree before doc later atOnce ∨
    ∃ d snapshot, Awaited before ((folds doc).toOption.getD []) doc later atOnce d snapshot

/-- With its answers chosen in two ways, a session is alike before it asks. -/
theorem alike_answering {start : Session (Recorded (Answering σ))}
    (h : start.host.answers = before.answers) (folds : String → Except String (List LineRange)) :
    Alike before folds (start.answering fun _ => .pending)
      (start.answering fun request => .ofResult (folds request.document)) where
  language := rfl
  settings := rfl
  debouncer := rfl
  active := rfl
  isOpen _ := rfl
  shown _ := rfl
  stored _ := rfl
  pending _ := rfl
  ready _ := rfl
  grown := h ▸ List.suffix_rfl
  each doc := by
    refine .inl ⟨rfl, fun g => rfl, fun asked => ?_⟩
    have none : (start.answering fun _ => .pending).host.answersSince before = [] :=
      Recorded.answersSince_eq h
    rw [none] at asked
    exact absurd rfl asked

/-! ## Other documents -/

omit [Host σ] in
theorem Agree.of_leaves {later' atOnce' : Session (Recorded (Answering σ))}
    (h : Agree before doc later atOnce) (grown : before.answers <:+ later.host.answers)
    (l : Leaves doc later later') (l' : Leaves doc atOnce atOnce') :
    Agree before doc later' atOnce' where
  state := l.state.trans (h.state.trans l'.state.symm)
  paint g := (l.lastPainted? g).trans ((h.paint g).trans (l'.lastPainted? g).symm)
  settled asked := by
    rw [l.lastAnswer? grown] at asked
    rw [Store.stateOf, l.state]
    exact h.settled asked

theorem Awaited.of_leaves {later' atOnce' : Session (Recorded (Answering σ))}
    {folds : List LineRange} {d : DocumentState} {snapshot : Snapshot}
    (h : Awaited before folds doc later atOnce d snapshot)
    (grown : before.answers <:+ later.host.answers) (l : Leaves doc later later')
    (l' : Leaves doc atOnce atOnce')
    (isOpen : Host.isOpen later'.host doc = Host.isOpen later.host doc)
    (shown : Host.snapshot? later'.host doc = Host.snapshot? later.host doc) :
    Awaited before folds doc later' atOnce' d snapshot where
  awaiting := l.state.trans h.awaiting
  answered := l'.state.trans h.answered
  frames := h.frames
  isOpen := isOpen.trans h.isOpen
  shown := shown.trans h.shown
  asked := by
    rw [l.lastAnswer? grown]
    exact h.asked
  paint g := by
    rw [lastPainted?_append, l.lastPainted?, l.settings, ← lastPainted?_append, h.paint,
      l'.lastPainted?]

/-! ## Visits -/

namespace Alike

variable {folds : String → Except String (List LineRange)}

/-- The sessions know the same of a document, but for what is awaited. -/
theorem stateOf (h : Alike before folds later atOnce) (doc : String) :
    ∃ (d : DocumentState) (p p' : Option Nat), later.store.stateOf doc = { d with pending := p } ∧
      atOnce.store.stateOf doc = { d with pending := p' } := by
  rcases h.each doc with agree | ⟨d, snapshot, awaited⟩
  · have same : atOnce.store.stateOf doc = later.store.stateOf doc := by
      rw [Store.stateOf, ← agree.state, Store.stateOf]
    exact ⟨later.store.stateOf doc, _, _, rfl, same⟩
  · exact ⟨d, _, _, Store.stateOf_of_get? awaited.awaiting,
      Store.stateOf_of_get? awaited.answered⟩

theorem togglesOf (h : Alike before folds later atOnce) (doc : String) :
    later.store.togglesOf doc = atOnce.store.togglesOf doc := by
  obtain ⟨d, p, p', e, e'⟩ := h.stateOf doc
  rw [Store.togglesOf, e, Store.togglesOf, e']

theorem nextRequest (h : Alike before folds later atOnce) (doc : String) :
    later.nextRequest doc = atOnce.nextRequest doc := by
  obtain ⟨d, p, p', e, e'⟩ := h.stateOf doc
  rw [Session.nextRequest, e, Session.nextRequest, e']

theorem togglesOnTrack (h : Alike before folds later atOnce) (doc : String) :
    later.togglesOnTrack doc = atOnce.togglesOnTrack doc := by
  rcases h.each doc with agree | ⟨d, snapshot, awaited⟩
  · rw [Session.togglesOnTrack, agree.state, storedToggles?, h.settings, h.stored]
    rfl
  · rw [Session.togglesOnTrack, awaited.awaiting, Session.togglesOnTrack, awaited.answered]

/-- Only the groups of the frames may differ. -/
theorem paint_other (h : Alike before folds later atOnce) (doc : String) {g : Group}
    (hg : g ∉ Feature.frameLinks.groups) :
    lastPainted? later.host.calls doc g = lastPainted? atOnce.host.calls doc g := by
  rcases h.each doc with agree | ⟨d, snapshot, awaited⟩
  · exact agree.paint g
  · rw [← awaited.paint, lastPainted?_append, lastPainted?_calls_of_not_mem
      (fun hm => hg (Feature.map_group_edits _ .frameLinks ▸ hm)), Option.none_or]

/-- Where every group is painted over, both sessions show the same. -/
theorem paint_over (h : Alike before folds later atOnce) (doc : String) {edits : List Edit}
    (groups : edits.map Edit.group = Feature.all.flatMap Feature.groups) (g : Group) :
    lastPainted? ((edits.map (·.call doc)).reverse ++ later.host.calls) doc g =
      lastPainted? ((edits.map (·.call doc)).reverse ++ atOnce.host.calls) doc g := by
  rw [lastPainted?_append, lastPainted?_append]
  by_cases hg : g ∈ Feature.frameLinks.groups
  · have painted : g ∈ edits.map Edit.group :=
      groups ▸ List.mem_flatMap.2 ⟨.frameLinks, by decide, hg⟩
    obtain ⟨regions, e⟩ := exists_lastPainted?_calls painted doc
    rw [e]
    rfl
  · rw [h.paint_other doc hg]

/-- A document that is not shown is not painted by a visit, and stays alike. -/
theorem agree_visit_of_none (h : Alike before folds later atOnce) {doc : String}
    (hs : Host.snapshot? later.host doc = none) (toggles : Toggles) :
    Agree before doc (later.visit doc toggles) (atOnce.visit doc toggles) := by
  rcases h.each doc with agree | ⟨d, snapshot, awaited⟩
  · rw [visit_of_none hs, visit_of_none (h.shown doc ▸ hs)]
    have same : later.store.stateOf doc = atOnce.store.stateOf doc := by
      rw [Store.stateOf, agree.state, Store.stateOf]
    refine ⟨?_, agree.paint, fun asked => ?_⟩
    · show (Store.change _ _ _).get? doc = (Store.change _ _ _).get? doc
      rw [Store.get?_change, Store.get?_change, if_pos rfl, if_pos rfl, same]
    · rw [stateOf_renew]
      exact agree.settled asked
  · cases hs.symm.trans awaited.shown

/-- Without the frames, a visit asks for nothing and paints all. -/
theorem agree_visit (h : Alike before folds later atOnce) {doc : String} {snapshot : Snapshot}
    (hs : Host.snapshot? later.host doc = some snapshot) {toggles : Toggles}
    (hf : toggles.frames = false) :
    Agree before doc (later.visit doc toggles) (atOnce.visit doc toggles) := by
  have hs' : Host.snapshot? atOnce.host doc = some snapshot := h.shown doc ▸ hs
  have none (s : Session (Recorded (Answering σ))) (request : FoldRequest) :
      s.foldsFor toggles request = some [] := by simp [foldsFor, hf]
  have paints : later.paintsFor toggles (later.nextRequest doc) snapshot =
      atOnce.paintsFor toggles (atOnce.nextRequest doc) snapshot := by
    rw [paintsFor, paintsFor, none, none, h.settings]
  have state : later.stateAfter toggles (later.nextRequest doc) snapshot =
      atOnce.stateAfter toggles (atOnce.nextRequest doc) snapshot := by
    rw [stateAfter, stateAfter, none, none, h.nextRequest]
  refine ⟨?_, fun g => ?_, fun _ => ?_⟩
  · rw [visit_eq hs, visit_eq hs', state]
    show (Store.change _ _ _).get? doc = (Store.change _ _ _).get? doc
    rw [Store.get?_change, Store.get?_change, if_pos rfl, if_pos rfl]
  · rw [lastPainted?_visit hs, lastPainted?_visit hs', paints]
    exact h.paint_over doc (groups_paintsFor (none _ _) _) g
  · rw [visit_eq hs, tellAll_store, onStore, Store.stateOf_change, if_pos rfl, stateAfter,
      none]
    rfl

/-- With the frames, what a visit paints at once it paints later too, but for the frames. -/
theorem awaited_visit (steady : Host.Steady σ) (h : Alike before folds later atOnce) {doc : String}
    {snapshot : Snapshot} (ho : Host.isOpen later.host doc = true)
    (hs : Host.snapshot? later.host doc = some snapshot) {toggles : Toggles}
    (hf : toggles.frames = true) :
    Awaited before ((folds doc).toOption.getD []) doc (later.visit doc toggles)
      (atOnce.visit doc toggles) (atOnce.stateAfter toggles (atOnce.nextRequest doc) snapshot)
      snapshot := by
  have hs' : Host.snapshot? atOnce.host doc = some snapshot := h.shown doc ▸ hs
  have none (request : FoldRequest) : later.foldsFor toggles request = none := by
    rw [foldsFor, if_pos hf, h.pending]
    rfl
  have got : atOnce.foldsFor toggles (atOnce.nextRequest doc) =
      some ((folds doc).toOption.getD []) := by
    rw [foldsFor, if_pos hf, h.ready]
    exact FoldAnswer.folds?_ofResult _
  have paints : atOnce.paintsFor toggles (atOnce.nextRequest doc) snapshot =
      later.paintsFor toggles (later.nextRequest doc) snapshot ++ Feature.frameLinks.edits
        (.over snapshot toggles later.settings ((folds doc).toOption.getD [])) := by
    rw [paintsFor, paintsFor, none, got, h.settings]
    exact Feature.paints_of_frames hf _ _ _
  constructor
  case awaiting =>
    rw [visit_eq hs, stateAfter, stateAfter, none, h.nextRequest]
    exact (Store.get?_change ..).trans (if_pos rfl)
  case answered =>
    rw [visit_eq hs', stateAfter, got]
    exact (Store.get?_change ..).trans (if_pos rfl)
  case frames => exact hf
  case isOpen => rw [isOpen_visit _ _ _ (Answering.steady steady).recorded, ho]
  case shown => rw [snapshot?_visit _ _ _ (Answering.steady steady).recorded, hs]
  case asked =>
    refine ⟨.pending, ?_⟩
    rw [Recorded.answersSince_of_append (answers_visit hs toggles) h.grown, lastAnswer?_append,
      answersTo, if_pos hf, h.pending, h.nextRequest, lastAnswer?,
      List.find?_cons_of_pos (by exact decide_eq_true rfl)]
    rfl
  case paint =>
    intro g
    rw [lastPainted?_append, lastPainted?_visit hs, ← lastPainted?_append, lastPainted?_visit hs',
      ← h.paint_over doc (groups_paintsFor got _) g, paints, List.map_append,
      List.reverse_append, List.append_assoc, settings_visit]
    rfl

/-- When stores change and the hosts are told something, the sessions stay alike if their documents
do. -/
theorem of_each (steady : Host.Steady σ) (h : Alike before folds later atOnce)
    (f f' : Store → Store) {calls calls' : List HostCall}
    (hc : ∀ c ∈ calls, c.movesCursor = false ∧ c.storesToggles = false)
    (hc' : ∀ c ∈ calls', c.movesCursor = false ∧ c.storesToggles = false)
    (each : ∀ doc,
      Agree before doc ((later.onStore f).tellAll calls) ((atOnce.onStore f').tellAll calls') ∨
      ∃ d snapshot, Awaited before ((folds doc).toOption.getD []) doc
        ((later.onStore f).tellAll calls) ((atOnce.onStore f').tellAll calls') d snapshot) :
    Alike before folds ((later.onStore f).tellAll calls) ((atOnce.onStore f').tellAll calls') := by
  have steady : Host.Steady (Recorded (Answering σ)) := (Answering.steady steady).recorded
  have answer (calls : List HostCall) (host : Recorded (Answering σ)) (request : FoldRequest) :
      Host.answer (calls.foldl Host.perform host) request = Host.answer host request :=
    Host.Steady.foldl_perform (f := (Host.answer · request)) (fun _ _ _ => rfl) host
  constructor
  case language => exact h.language
  case settings => exact h.settings
  case debouncer => exact h.debouncer
  case active => exact h.active
  case isOpen =>
    intro doc
    exact (steady.isOpen_foldl _ calls doc).trans
      ((h.isOpen doc).trans (steady.isOpen_foldl _ calls' doc).symm)
  case shown =>
    intro doc
    exact (steady.snapshot?_foldl _ (fun c m => (hc c m).1) doc).trans
      ((h.shown doc).trans (steady.snapshot?_foldl _ (fun c m => (hc' c m).1) doc).symm)
  case stored =>
    intro doc
    exact (steady.stored?_foldl _ (fun c m => (hc c m).2) doc).trans
      ((h.stored doc).trans (steady.stored?_foldl _ (fun c m => (hc' c m).2) doc).symm)
  case pending => exact fun request => (answer calls _ request).trans (h.pending request)
  case ready => exact fun request => (answer calls' _ request).trans (h.ready request)
  case grown => exact h.grown.trans (suffix_answers_tellAll (later.onStore f) calls)
  case each => exact each

/-- After a visit in both, the sessions are alike. -/
theorem visit (steady : Host.Steady σ) (h : Alike before folds later atOnce) {doc : String}
    (ho : Host.isOpen later.host doc = true) (toggles : Toggles) :
    Alike before folds (later.visit doc toggles) (atOnce.visit doc toggles) := by
  have steady' : Host.Steady (Recorded (Answering σ)) := (Answering.steady steady).recorded
  have each : ∀ d, Agree before d (later.visit doc toggles) (atOnce.visit doc toggles) ∨
      ∃ st snapshot, Awaited before ((folds d).toOption.getD []) d (later.visit doc toggles)
        (atOnce.visit doc toggles) st snapshot := by
    intro d
    by_cases hd : d = doc
    · rw [hd]
      cases hs : Host.snapshot? later.host doc with
      | none => exact .inl (h.agree_visit_of_none hs toggles)
      | some snapshot =>
        cases hf : toggles.frames with
        | false => exact .inl (h.agree_visit hs hf)
        | true => exact .inr ⟨_, _, h.awaited_visit steady ho hs hf⟩
    · have l := leaves_visit later hd toggles
      have l' := leaves_visit atOnce hd toggles
      refine (h.each d).imp (·.of_leaves h.grown l l') fun ⟨st, snapshot, awaited⟩ => ?_
      exact ⟨st, snapshot, awaited.of_leaves h.grown l l' (isOpen_visit _ _ _ steady' d)
        (snapshot?_visit _ _ _ steady' d)⟩
  obtain ⟨f, calls, e, hc, -⟩ := later.visit_cases doc toggles
  obtain ⟨f', calls', e', hc', -⟩ := atOnce.visit_cases doc toggles
  rw [e, e'] at each ⊢
  exact h.of_each steady _ _ hc hc' each

theorem quieted (steady : Host.Steady σ) (h : Alike before folds later atOnce) (doc : String) :
    Alike before folds (later.quieted doc) (atOnce.quieted doc) := by
  rw [quieted_eq, quieted_eq, ← h.isOpen, ← h.togglesOf]
  split
  · rename_i ho
    exact h.visit steady ho _
  · exact h

theorem refresh (steady : Host.Steady σ) (h : Alike before folds later atOnce) (doc : String) :
    Alike before folds (later.refresh doc) (atOnce.refresh doc) := by
  have live : atOnce.isLive doc = later.isLive doc := by
    rw [isLive, isLive, isTemplate, isTemplate, h.language, h.isOpen]
  rw [refresh_eq, refresh_eq, live, ← h.togglesOnTrack]
  split
  · rename_i live
    exact h.visit steady (isOpen_of_isLive live) _
  · exact h

/-- What keeps the sessions alike for one document does so for one after the other. -/
theorem foldl {f : Session (Recorded (Answering σ)) → String → Session (Recorded (Answering σ))}
    (keeps : ∀ {later atOnce}, Alike before folds later atOnce →
      ∀ doc, Alike before folds (f later doc) (f atOnce doc))
    (h : Alike before folds later atOnce) (docs : List String) :
    Alike before folds (docs.foldl f later) (docs.foldl f atOnce) := by
  induction docs generalizing later atOnce with
  | nil => exact h
  | cons doc docs ih => exact ih (keeps h doc)

/-- What is said to both hosts keeps the sessions alike. -/
theorem tellAll (steady : Host.Steady σ) (h : Alike before folds later atOnce)
    {calls : List HostCall} (remarks : ∀ c ∈ calls,
      c.isRemark = true ∧ c.movesCursor = false ∧ c.storesToggles = false) :
    Alike before folds (later.tellAll calls) (atOnce.tellAll calls) := by
  have steady' : Host.Steady (Recorded (Answering σ)) := (Answering.steady steady).recorded
  refine h.of_each steady id id (fun c hc => (remarks c hc).2) (fun c hc => (remarks c hc).2)
    fun doc => ?_
  have l := leaves_tellAll later (fun c hc => (remarks c hc).1) doc
  have l' := leaves_tellAll atOnce (fun c hc => (remarks c hc).1) doc
  refine (h.each doc).imp (·.of_leaves h.grown l l') fun ⟨d, snapshot, awaited⟩ => ?_
  exact ⟨d, snapshot, awaited.of_leaves h.grown l l' (steady'.isOpen_foldl _ calls doc)
    (steady'.snapshot?_foldl _ (fun c hc => (remarks c hc).2.1) doc)⟩

end Alike

/-! ## Deliveries -/

/-- A delivered answer leaves every other document. -/
theorem leaves_delivered (s : Session (Recorded σ)) {request : FoldRequest}
    (h : doc ≠ request.document) (result : Except String (List LineRange)) :
    Leaves doc s (s.delivered request result) := by
  obtain ⟨edits, e⟩ := s.delivered_cases request result
  rw [e]
  refine ⟨?_, rfl, ⟨_, calls_tellAll _ _, fun g => lastPainted?_calls_of_ne h _ g⟩,
    ⟨[], answers_tellAll _ (call_request? _ _), rfl⟩⟩
  show (s.store.settle request).get? doc = s.store.get? doc
  rw [Store.get?_settle, if_neg fun hd => h hd.1]

/-- Nothing happens when the answer is delivered for a document that agrees. -/
theorem Agree.delivered_eq {request : FoldRequest}
    (agree : Agree before request.document later atOnce)
    (asked : lastAnswer? (later.host.answersSince before) request.document ≠ none)
    (result : Except String (List LineRange)) : later.delivered request result = later := by
  refine delivered_of_not_awaits (Bool.eq_false_iff.2 fun ha => ?_) result
  obtain ⟨d, hd, -, hp⟩ := (Store.awaits_iff _ _).1 ha
  have settled := agree.settled asked
  rw [Store.stateOf_of_get? hd, hp] at settled
  cases settled

/-- Once the answer that is awaited for a document is delivered, the document agrees. -/
theorem Awaited.agree_delivered {d : DocumentState} {snapshot : Snapshot}
    {result : Except String (List LineRange)}
    (h : Awaited before (result.toOption.getD []) doc later atOnce d snapshot) :
    Agree before doc (later.delivered ⟨doc, d.generation⟩ result) atOnce := by
  have ha : later.store.awaits ⟨doc, d.generation⟩ = true :=
    (Store.awaits_iff _ _).2 ⟨_, h.awaiting, rfl, rfl⟩
  have frames : (later.store.togglesOf doc).frames = true := by
    rw [Store.togglesOf, Store.stateOf_of_get? h.awaiting, h.frames]
  have state : (later.store.settle ⟨doc, d.generation⟩).get? doc =
      some { d with pending := none } := by
    rw [Store.get?_settle, if_pos ⟨rfl, ha⟩, h.awaiting]
    rfl
  have edits : Feature.frameLinks.edits
      (later.passOver doc snapshot (result.toOption.getD [])) = Feature.frameLinks.edits
        (.over snapshot d.toggles later.settings (result.toOption.getD [])) :=
    Feature.edits_frameLinks_congr rfl rfl
  rw [Session.delivered_eq ha h.isOpen h.shown, if_pos frames, edits]
  refine ⟨state.trans h.answered.symm, fun g => ?_, fun _ => ?_⟩
  · rw [calls_tellAll]
    exact h.paint g
  · exact congrArg (·.pending) (Store.stateOf_of_get? state)

namespace Alike

variable {folds : String → Except String (List LineRange)}

/-- The delivery of the answer to the last request for a document keeps the sessions alike, and the
document agrees from then on. -/
theorem delivered (steady : Host.Steady σ) (h : Alike before folds later atOnce)
    {request : FoldRequest} {answer : FoldAnswer}
    (asked : lastAnswer? (later.host.answersSince before) request.document =
      some (request, answer)) :
    Alike before folds (later.delivered request (folds request.document)) atOnce ∧
      Agree before request.document (later.delivered request (folds request.document)) atOnce := by
  rcases h.each request.document with agree | ⟨d, snapshot, awaited⟩
  · rw [agree.delivered_eq (by rw [asked]; exact nofun)]
    exact ⟨h, agree⟩
  · obtain ⟨document, generation⟩ := request
    obtain ⟨answer', asked'⟩ := awaited.asked
    obtain rfl : generation = d.generation :=
      congrArg (·.1.generation) (Option.some.inj (asked.symm.trans asked'))
    have agree := awaited.agree_delivered
    refine ⟨?_, agree⟩
    have steady' : Host.Steady (Recorded (Answering σ)) := (Answering.steady steady).recorded
    obtain ⟨edits, e⟩ := later.delivered_cases ⟨document, d.generation⟩ (folds document)
    have still : ∀ c ∈ edits.map (·.call document),
        c.movesCursor = false ∧ c.storesToggles = false := by
      intro c hc
      obtain ⟨edit, -, rfl⟩ := List.mem_map.1 hc
      exact ⟨rfl, rfl⟩
    have each : ∀ doc, Agree before doc (later.delivered ⟨document, d.generation⟩ (folds document))
          atOnce ∨
        ∃ st snapshot, Awaited before ((folds doc).toOption.getD []) doc
          (later.delivered ⟨document, d.generation⟩ (folds document)) atOnce st snapshot := by
      intro doc
      by_cases hd : doc = document
      · exact .inl (hd ▸ agree)
      · have l : Leaves doc later (later.delivered ⟨document, d.generation⟩ (folds document)) :=
          leaves_delivered later hd _
        refine (h.each doc).imp (·.of_leaves h.grown l .refl) fun ⟨st, snapshot, awaited⟩ => ?_
        refine ⟨st, snapshot, awaited.of_leaves h.grown l .refl ?_ ?_⟩
        · rw [e]
          exact steady'.isOpen_foldl _ _ doc
        · rw [e]
          exact steady'.snapshot?_foldl _ (fun c hc => (still c hc).1) doc
    rw [e] at each ⊢
    show Alike before folds _ ((atOnce.onStore id).tellAll [])
    exact h.of_each steady _ id still nofun each

/-- When the answers to the last requests for some documents are delivered, these documents agree,
and those that agreed before. -/
theorem delivered_all (steady : Host.Steady σ) (h : Alike before folds later atOnce)
    {requests : List FoldRequest} (asked : ∀ r ∈ requests, ∃ answer,
      lastAnswer? (later.host.answersSince before) r.document = some (r, answer)) :
    let done := requests.foldl (fun s r => s.delivered r (folds r.document)) later
    Alike before folds done atOnce ∧ done.host.answers = later.host.answers ∧
      ∀ doc, (Agree before doc later atOnce ∨ ∃ r ∈ requests, r.document = doc) →
        Agree before doc done atOnce := by
  induction requests generalizing later with
  | nil => exact ⟨h, rfl, fun doc ha => ha.elim id fun ⟨r, hr, _⟩ => nomatch hr⟩
  | cons r requests ih =>
    obtain ⟨answer, hr⟩ := asked r List.mem_cons_self
    obtain ⟨h', agree⟩ := h.delivered steady hr
    have answers := later.answers_delivered r (folds r.document)
    have since : (later.delivered r (folds r.document)).host.answersSince before =
        later.host.answersSince before := by rw [Recorded.answersSince, answers]; rfl
    obtain ⟨alike, same, agrees⟩ := ih h' fun r' hr' => by
      rw [since]
      exact asked r' (List.mem_cons_of_mem _ hr')
    refine ⟨alike, same.trans answers, fun doc ha => agrees doc ?_⟩
    rcases ha with ha | ⟨r', hr', rfl⟩
    · by_cases hd : doc = r.document
      · exact .inl (hd ▸ agree)
      · exact .inl (ha.of_leaves h.grown (leaves_delivered later hd _) .refl)
    · rcases List.mem_cons.1 hr' with rfl | hr'
      · exact .inl agree
      · exact .inr ⟨r', hr', rfl⟩

end Alike

/-- After an event, the sessions are alike. -/
theorem alike_handle (steady : Host.Steady σ) (s : Session (Recorded (Answering σ))) (e : Event)
    (folds : String → Except String (List LineRange)) :
    Alike s.host folds ((s.answering fun _ => .pending).handle e)
      ((s.answering fun request => .ofResult (folds request.document)).handle e) := by
  cases s.handle_splits steady e with
  | alike start answers h =>
    rw [h, h]
    exact alike_answering answers folds
  | visit start doc toggles calls answers ho remarks h =>
    rw [h, h]
    exact ((alike_answering answers folds).visit steady ho toggles).tellAll steady remarks
  | each start docs answers hf h =>
    rw [h, h]
    rcases hf with rfl | rfl
    · exact (alike_answering answers folds).foldl (fun h doc => h.quieted steady doc) docs
    · exact (alike_answering answers folds).foldl (fun h doc => h.refresh steady doc) docs

/-- The answers to the requests of an event may be delivered later: when those to the last request
for each document are delivered, in any order, the documents, what waits to go quiet, the active
document, and what each group shows are as if the host had answered at once. -/
theorem delivered_agrees_with_at_once (steady : Host.Steady σ)
    (s : Session (Recorded (Answering σ))) (e : Event)
    (folds : String → Except String (List LineRange)) {requests : List FoldRequest}
    (last : ∀ r, r ∈ requests ↔ ∃ answer, lastAnswer? (((s.answering fun _ => .pending).handle
      e).host.answersSince s.host) r.document = some (r, answer)) :
    let later := (s.answering fun _ => .pending).handle e
    let atOnce := (s.answering fun r => .ofResult (folds r.document)).handle e
    let done := requests.foldl (fun s r => s.delivered r (folds r.document)) later
    done.store = atOnce.store ∧ done.debouncer = atOnce.debouncer ∧
      done.active = atOnce.active ∧
      ∀ doc g, lastPainted? done.host.calls doc g = lastPainted? atOnce.host.calls doc g := by
  intro later atOnce done
  obtain ⟨alike, same, agrees⟩ :=
    (alike_handle steady s e folds).delivered_all steady fun r hr => (last r).1 hr
  have agree (doc : String) : Agree s.host doc done atOnce := by
    rcases alike.each doc with agree | ⟨d, snapshot, awaited⟩
    · exact agree
    · -- its last request is one of those whose answers were delivered
      obtain ⟨answer, asked⟩ := awaited.asked
      have since : done.host.answersSince s.host = later.host.answersSince s.host := by
        rw [Recorded.answersSince, same]
        rfl
      rw [since] at asked
      exact agrees doc (.inr ⟨_, (last ⟨doc, d.generation⟩).2 ⟨answer, asked⟩, rfl⟩)
  exact ⟨KeyMap.ext fun doc => (agree doc).state, alike.debouncer, alike.active,
    fun doc => (agree doc).paint⟩

/-- A session with two templates that are visible. -/
def framedSession : Session (Recorded (Answering Workspace)) :=
  fresh ⟨framedWorkspace, fun _ => .ready []⟩ .default

/-- The folds of one template are known, and those of the other are not to be had. -/
def framedFolds (doc : String) : Except String (List LineRange) :=
  if doc = "a.erb" then .ok [⟨0, 1⟩] else .error "no folds"

/-- When the settings change, both templates ask for their folds; they may be delivered in the
other order. -/
theorem delivered_in_other_order :
    let later := (framedSession.answering fun _ => .pending).handle (.configured "erbalist")
    let atOnce := (framedSession.answering fun r => .ofResult (framedFolds r.document)).handle
      (.configured "erbalist")
    let done := [⟨"b.erb", 1⟩, ⟨"a.erb", 1⟩].foldl
      (fun s r => s.delivered r (framedFolds r.document)) later
    later.host.answersSince framedSession.host =
        [(⟨"b.erb", 1⟩, .pending), (⟨"a.erb", 1⟩, .pending)] ∧
      done.store = atOnce.store ∧ done.debouncer = atOnce.debouncer ∧
      done.active = atOnce.active ∧
      ∀ doc g, lastPainted? done.host.calls doc g = lastPainted? atOnce.host.calls doc g := by
  have answers : ((framedSession.answering fun _ => .pending).handle
      (.configured "erbalist")).host.answersSince framedSession.host =
      [(⟨"b.erb", 1⟩, .pending), (⟨"a.erb", 1⟩, .pending)] := by decide +kernel
  have last (r : FoldRequest) : r ∈ [⟨"b.erb", 1⟩, ⟨"a.erb", 1⟩] ↔
      ∃ answer, lastAnswer? (((framedSession.answering fun _ => .pending).handle
        (.configured "erbalist")).host.answersSince framedSession.host) r.document =
          some (r, answer) := by
    rw [answers]
    constructor
    · intro hr
      rcases List.mem_cons.1 hr with rfl | hr
      · exact ⟨.pending, by decide⟩
      · obtain rfl := List.mem_singleton.1 hr
        exact ⟨.pending, by decide⟩
    · rintro ⟨answer, h⟩
      rcases List.mem_cons.1 (List.mem_of_find?_eq_some h) with e | e
      · exact (Prod.mk.inj e).1 ▸ List.mem_cons_self
      · exact (Prod.mk.inj (List.mem_singleton.1 e)).1 ▸ List.mem_cons_of_mem _ List.mem_cons_self
  exact ⟨answers, delivered_agrees_with_at_once Workspace.steady framedSession
    (.configured "erbalist") framedFolds last⟩

end Session

end TemplatePaint
