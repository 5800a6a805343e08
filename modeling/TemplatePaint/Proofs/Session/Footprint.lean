import TemplatePaint.Proofs.Host.Apart
import TemplatePaint.Proofs.Session.Reach

/-!
# The footprint of an event

Most events are of one document (`Event.document?`). Such an event acts on this
document alone (`Acts`): of all that the session holds of its documents, it
changes what it holds of this one, and the host is told of no other. What it
does hangs on this document alone, too: in two sessions that are the same for
the document (`SameFor`), it makes the same calls, and they are the same for
the document afterwards (`Likewise`, `SameFor.handle`).
-/

namespace TemplatePaint

/-- The document that an event is of. -/
def Event.document? : Event → Option String
  | .cursorMoved doc _ | .edited doc _ | .closed doc | .toggle doc _ | .foldDrawings doc
  | .unfoldDrawings doc => some doc
  | .delivered request _ => some request.document
  | .activated _ | .polled _ | .configured _ => none

/-- What an event gives back. -/
inductive Outcome where
  | nothing
  /-- How the switch stands now, or why it was not flipped. -/
  | toggled (stands : Except SessionError Bool)
  /-- The lines that the drawings start on. -/
  | folded (lines : List Nat)

namespace Session

variable {σ : Type} [Host σ] {s s' s'' t t' t'' : Session σ} {doc : String}

/-- What the session gives back for an event. -/
def outcome (s : Session σ) : Event → Outcome
  | .toggle doc switch => .toggled (s.toggle doc switch).1
  | .foldDrawings doc => .folded (s.foldDrawings doc).1
  | _ => .nothing

/-! ## What a session holds of a document -/

/-- What a session holds of a document. -/
@[ext] structure Slot where
  state : Option DocumentState
  deadline : Option Nat
  isActive : Prop

/-- The state of the document, when it goes quiet, and whether it is active. -/
def slot (s : Session σ) (doc : String) : Slot :=
  ⟨s.store.get? doc, s.debouncer.deadline? doc, s.active = some doc⟩

/-- What the session holds beside its documents. -/
def base (s : Session σ) : Language × Settings × Nat :=
  (s.language, s.settings, s.debouncer.quiet)

omit [Host σ] in
/-- A session holds nothing but its base and its slots. -/
theorem ext_of_slots (base : s.base = t.base) (slots : ∀ doc, s.slot doc = t.slot doc) :
    s.language = t.language ∧ s.settings = t.settings ∧ s.store = t.store ∧
      s.debouncer = t.debouncer ∧ s.active = t.active := by
  simp only [Session.base, Prod.mk.injEq] at base
  obtain ⟨language, settings, quiet⟩ := base
  have debouncer : s.debouncer = t.debouncer :=
    Debouncer.eq_of_deadline? quiet fun doc => congrArg Slot.deadline (slots doc)
  have active : s.active = t.active := by
    refine Option.ext fun doc => ?_
    have same : (s.active = some doc) = (t.active = some doc) :=
      congrArg Slot.isActive (slots doc)
    exact Iff.of_eq same
  exact ⟨language, settings, KeyMap.ext fun doc => congrArg Slot.state (slots doc), debouncer,
    active⟩

/-! ## Acting on one document -/

/-- From one session to the next, only this document was acted on, and the host was told these
things. -/
structure Acts (doc : String) (calls : List HostCall) (s s' : Session σ) : Prop where
  base : s'.base = s.base
  others : ∀ d, d ≠ doc → s'.slot d = s.slot d
  host : s'.host = calls.foldl Host.perform s.host
  named : NameOnly doc calls

theorem Acts.trans {calls calls' : List HostCall} (a : Acts doc calls s s')
    (a' : Acts doc calls' s' s'') : Acts doc (calls ++ calls') s s'' where
  base := a'.base.trans a.base
  others d ne := (a'.others d ne).trans (a.others d ne)
  host := by rw [a'.host, a.host, List.foldl_append]
  named := List.forall_mem_append.2 ⟨a.named, a'.named⟩

theorem acts_tellAll (s : Session σ) {calls : List HostCall} (named : NameOnly doc calls) :
    Acts doc calls s (s.tellAll calls) :=
  ⟨rfl, fun _ _ => rfl, rfl, named⟩

theorem acts_change (s : Session σ) (doc : String) (f : DocumentState → DocumentState) :
    Acts doc [] s (s.onStore (·.change doc f)) where
  base := rfl
  others _ ne := congrArg (Slot.mk · _ _) ((Store.get?_change ..).trans (if_neg ne))
  host := rfl
  named := nameOnly_nil doc

/-- Two sessions are the same for a document: they hold the same of it, and their hosts show the
same of it, whatever they are told. -/
structure SameFor (doc : String) (s t : Session σ) : Prop where
  base : s.base = t.base
  slot : s.slot doc = t.slot doc
  shows : ∀ calls : List HostCall, Host.view (calls.foldl Host.perform s.host) doc =
    Host.view (calls.foldl Host.perform t.host) doc

/-- In both sessions, the same is done to the document and to no other, and then they are the same
for it. -/
def Likewise (doc : String) (s s' t t' : Session σ) : Prop :=
  ∃ calls, Acts doc calls s s' ∧ Acts doc calls t t' ∧ SameFor doc s' t'

theorem SameFor.refl (doc : String) (s : Session σ) : SameFor doc s s :=
  ⟨rfl, rfl, fun _ => rfl⟩

/-- What is done to another document leaves the session the same. -/
theorem Acts.sameFor (apart : Host.Apart σ) {calls : List HostCall} (a : Acts doc calls s s')
    {other : String} (ne : other ≠ doc) : SameFor other s s' where
  base := a.base.symm
  slot := (a.others other ne).symm
  shows later := by
    have none := callsNaming_of_ne a.named ne
    rw [a.host, ← List.foldl_append, apart, apart s.host (calls ++ later), callsNaming_append,
      none, List.nil_append]

/-- What is done likewise after it was done likewise. -/
theorem Likewise.andThen (l : Likewise doc s s' t t')
    (next : SameFor doc s' t' → Likewise doc s' s'' t' t'') : Likewise doc s s'' t t'' := by
  obtain ⟨calls, a, a', same⟩ := l
  obtain ⟨calls', b, b', same'⟩ := next same
  exact ⟨calls ++ calls', a.trans b, a'.trans b', same'⟩

namespace SameFor

/-! ## What is the same -/

section
variable (h : SameFor doc s t)
include h

theorem language : s.language = t.language := congrArg (·.1) h.base

theorem settings : s.settings = t.settings := congrArg (·.2.1) h.base

theorem quiet : s.debouncer.quiet = t.debouncer.quiet := congrArg (·.2.2) h.base

theorem state : s.store.get? doc = t.store.get? doc := congrArg Slot.state h.slot

theorem deadline : s.debouncer.deadline? doc = t.debouncer.deadline? doc :=
  congrArg Slot.deadline h.slot

theorem active : (s.active = some doc) = (t.active = some doc) := congrArg Slot.isActive h.slot

theorem view : Host.view s.host doc = Host.view t.host doc := h.shows []

theorem isOpen : Host.isOpen s.host doc = Host.isOpen t.host doc := congrArg Host.View.isOpen h.view

theorem text? : Host.text? s.host doc = Host.text? t.host doc := congrArg Host.View.text? h.view

theorem cursor? : Host.cursor? s.host doc = Host.cursor? t.host doc :=
  congrArg Host.View.cursor? h.view

theorem hasSelection : Host.hasSelection s.host doc = Host.hasSelection t.host doc :=
  congrArg Host.View.hasSelection h.view

theorem stored? : Host.stored? s.host doc = Host.stored? t.host doc :=
  congrArg Host.View.stored? h.view

theorem answer (generation : Nat) :
    Host.answer s.host ⟨doc, generation⟩ = Host.answer t.host ⟨doc, generation⟩ :=
  congrFun (congrArg Host.View.answer h.view) generation

theorem snapshot? : Host.snapshot? s.host doc = Host.snapshot? t.host doc := by
  rw [Host.snapshot?, Host.snapshot?, h.text?, h.cursor?, h.hasSelection]

theorem isLive : s.isLive doc = t.isLive doc := by
  rw [Session.isLive, Session.isLive, isTemplate, isTemplate, h.language, h.isOpen]

theorem stateOf : s.store.stateOf doc = t.store.stateOf doc := by
  rw [Store.stateOf, Store.stateOf, h.state]

theorem togglesOf : s.store.togglesOf doc = t.store.togglesOf doc :=
  congrArg DocumentState.toggles h.stateOf

theorem togglesOnTrack : s.togglesOnTrack doc = t.togglesOnTrack doc := by
  rw [Session.togglesOnTrack, Session.togglesOnTrack, storedToggles?, storedToggles?, h.state,
    h.settings, h.stored?]

theorem nextRequest : s.nextRequest doc = t.nextRequest doc := by
  rw [Session.nextRequest, Session.nextRequest, h.stateOf]

theorem awaits (generation : Nat) :
    s.store.awaits ⟨doc, generation⟩ = t.store.awaits ⟨doc, generation⟩ := by
  rw [Store.awaits, Store.awaits, h.state]

theorem foldsFor (toggles : Toggles) (generation : Nat) :
    s.foldsFor toggles ⟨doc, generation⟩ = t.foldsFor toggles ⟨doc, generation⟩ := by
  rw [Session.foldsFor, Session.foldsFor, h.answer]

theorem clickTarget? : s.clickTarget? doc = t.clickTarget? doc := by
  simp only [Session.clickTarget?, h.togglesOf, h.hasSelection, h.text?, h.cursor?, h.stateOf]

theorem foldsDrawings : s.foldsDrawings doc = t.foldsDrawings doc := by
  rw [Session.foldsDrawings, Session.foldsDrawings, h.isLive, h.text?]

theorem unfoldsDrawings : s.unfoldsDrawings doc = t.unfoldsDrawings doc := by
  rw [Session.unfoldsDrawings, Session.unfoldsDrawings, h.isLive]

theorem flipped (switch : Switch) : s.flipped doc switch = t.flipped doc switch := by
  rw [Session.flipped, Session.flipped, h.togglesOnTrack, h.settings]

theorem wraps (switch : Switch) : s.wraps doc switch = t.wraps doc switch := by
  rw [Session.wraps, Session.wraps, h.settings]

/-! ## What is done likewise -/

theorem stay : Likewise doc s s t t :=
  ⟨[], s.acts_tellAll (nameOnly_nil doc), t.acts_tellAll (nameOnly_nil doc), h⟩

theorem tellAll {calls : List HostCall} (named : NameOnly doc calls) :
    Likewise doc s (s.tellAll calls) t (t.tellAll calls) := by
  refine ⟨calls, s.acts_tellAll named, t.acts_tellAll named, h.base, h.slot, fun later => ?_⟩
  rw [Session.tellAll, Session.tellAll, ← List.foldl_append, ← List.foldl_append]
  exact h.shows (calls ++ later)

theorem change {f g : DocumentState → DocumentState}
    (same : f (s.store.stateOf doc) = g (t.store.stateOf doc)) :
    Likewise doc s (s.onStore (·.change doc f)) t (t.onStore (·.change doc g)) := by
  refine ⟨[], s.acts_change doc f, t.acts_change doc g, h.base, ?_, h.shows⟩
  have state : (s.store.change doc f).get? doc = (t.store.change doc g).get? doc := by
    rw [Store.get?_change, Store.get?_change, if_pos rfl, if_pos rfl, same]
  exact Slot.ext state h.deadline h.active

/-- A change of what waits to go quiet, of this document alone. -/
theorem onDebouncer {f : Debouncer → Debouncer} (quiet : ∀ d, (f d).quiet = d.quiet)
    (others : ∀ d other, other ≠ doc → (f d).deadline? other = d.deadline? other)
    (same : (f s.debouncer).deadline? doc = (f t.debouncer).deadline? doc) :
    Likewise doc s (s.onDebouncer f) t (t.onDebouncer f) := by
  have acts (s : Session σ) : Acts doc [] s (s.onDebouncer f) := by
    refine ⟨?_, fun d ne => ?_, rfl, nameOnly_nil doc⟩
    · exact congrArg (fun quiet => (s.language, s.settings, quiet)) (quiet s.debouncer)
    · exact congrArg (Slot.mk _ · _) (others s.debouncer d ne)
  refine ⟨[], acts s, acts t, ?_, ?_, h.shows⟩
  · exact (acts s).base.trans (h.base.trans (acts t).base.symm)
  · exact Slot.ext h.state same h.active

theorem cancel :
    Likewise doc s (s.onDebouncer (·.cancel doc)) t (t.onDebouncer (·.cancel doc)) := by
  refine h.onDebouncer (fun _ => rfl) (fun d other ne => ?_) ?_
  · exact (d.deadline?_cancel doc other).trans (if_neg ne)
  · rw [Debouncer.deadline?_cancel, Debouncer.deadline?_cancel, if_pos rfl, if_pos rfl]

theorem schedule (now : Nat) :
    Likewise doc s (s.onDebouncer (·.schedule doc now)) t (t.onDebouncer (·.schedule doc now)) := by
  refine h.onDebouncer (fun _ => rfl) (fun d other ne => ?_) ?_
  · exact (d.deadline?_schedule doc other now).trans (if_neg ne)
  · rw [Debouncer.deadline?_schedule, Debouncer.deadline?_schedule, if_pos rfl, if_pos rfl, h.quiet]

theorem renew (toggles : Toggles) :
    Likewise doc s (s.renew doc toggles) t (t.renew doc toggles) :=
  h.change (by rw [h.stateOf])

theorem clicks (motion : Motion) : s.clicks doc motion = t.clicks doc motion := by
  obtain ⟨calls, -, -, renewed⟩ := h.renew (t.togglesOnTrack doc)
  rw [Session.clicks, Session.clicks, h.togglesOnTrack, renewed.clickTarget?]

/-- A visit asks for the same folds, paints the same, and leaves the same state. -/
theorem visit (toggles : Toggles) :
    Likewise doc s (s.visit doc toggles) t (t.visit doc toggles) := by
  cases shown : Host.snapshot? s.host doc with
  | none =>
    rw [visit_of_none shown, visit_of_none (h.snapshot? ▸ shown)]
    exact h.renew toggles
  | some snapshot =>
    have folds : s.foldsFor toggles (t.nextRequest doc) = t.foldsFor toggles (t.nextRequest doc) :=
      h.foldsFor toggles _
    have paints : s.paintsFor toggles (t.nextRequest doc) snapshot =
        t.paintsFor toggles (t.nextRequest doc) snapshot := by
      rw [paintsFor, paintsFor, folds, h.settings]
    have state : s.stateAfter toggles (t.nextRequest doc) snapshot =
        t.stateAfter toggles (t.nextRequest doc) snapshot := by
      rw [stateAfter, stateAfter, folds]
    rw [visit_eq shown, visit_eq (h.snapshot? ▸ shown), h.nextRequest, paints]
    exact (h.change state).andThen fun h => h.tellAll (nameOnly_of_document?
      (List.forall_mem_append.2 ⟨asksFor_document? _ _, call_document? _ _⟩))

end

/-! ## Events -/

section
variable (h : SameFor doc s t)
include h

theorem cursorMoved (motion : Motion) :
    Likewise doc s (s.cursorMoved doc motion) t (t.cursorMoved doc motion) := by
  have live := h.isLive
  cases hs : s.isLive doc with
  | false =>
    rw [Session.cursorMoved, Session.cursorMoved, ← live, hs]
    exact h.stay
  | true =>
    rw [cursorMoved_eq hs, cursorMoved_eq (live ▸ hs), h.togglesOnTrack, h.clicks]
    have named := nameOnly_of_document? (t.clicks_document? doc motion)
    exact h.cancel.andThen fun h => (h.tellAll named).andThen fun h => h.visit _

theorem edited (now : Nat) : Likewise doc s (s.edited doc now) t (t.edited doc now) := by
  rw [Session.edited, Session.edited, ← h.isLive]
  split
  · rw [touch_eq, touch_eq, h.togglesOnTrack]
    exact (h.renew _).andThen fun h => h.schedule now
  · exact h.stay

theorem closed : Likewise doc s (s.closed doc) t (t.closed doc) := by
  have acts (s : Session σ) : Acts doc [] s (s.closed doc) := by
    refine ⟨rfl, fun d ne => Slot.ext ?_ ?_ ?_, rfl, nameOnly_nil doc⟩
    · exact (KeyMap.get?_erase ..).trans (if_neg ne)
    · exact (Debouncer.deadline?_cancel ..).trans (if_neg ne)
    · show ((if s.active = some doc then none else s.active) = some d) = (s.active = some d)
      split
      · rename_i active
        simp [active, Ne.symm ne]
      · rfl
  have inactive (s : Session σ) : ((s.closed doc).active = some doc) = False := by
    show ((if s.active = some doc then none else s.active) = some doc) = False
    split
    · simp
    · exact eq_false ‹_›
  refine ⟨[], acts s, acts t, h.base, Slot.ext ?_ ?_ ?_, h.shows⟩
  · exact ((KeyMap.get?_erase ..).trans (if_pos rfl)).trans
      ((KeyMap.get?_erase ..).trans (if_pos rfl)).symm
  · exact ((Debouncer.deadline?_cancel ..).trans (if_pos rfl)).trans
      ((Debouncer.deadline?_cancel ..).trans (if_pos rfl)).symm
  · exact (inactive s).trans (inactive t).symm

theorem delivered (generation : Nat) (folds : Except String (List LineRange)) :
    Likewise doc s (s.delivered ⟨doc, generation⟩ folds) t
      (t.delivered ⟨doc, generation⟩ folds) := by
  have awaits := h.awaits generation
  cases hs : s.store.awaits ⟨doc, generation⟩ with
  | false =>
    rw [delivered_of_not_awaits hs, delivered_of_not_awaits (awaits ▸ hs)]
    exact h.stay
  | true =>
    have ht : t.store.awaits ⟨doc, generation⟩ = true := awaits ▸ hs
    have settled : Likewise doc s (s.onStore (·.settle ⟨doc, generation⟩)) t
        (t.onStore (·.settle ⟨doc, generation⟩)) := by
      rw [onStore, onStore, Store.settle_eq_change hs, Store.settle_eq_change ht]
      exact h.change (by rw [h.stateOf])
    cases shown : Host.isOpen s.host doc with
    | false =>
      rw [delivered_of_hidden hs (.inl shown), delivered_of_hidden ht (.inl (h.isOpen ▸ shown))]
      exact settled
    | true =>
      cases snapshot : Host.snapshot? s.host doc with
      | none =>
        rw [delivered_of_hidden hs (.inr snapshot),
          delivered_of_hidden ht (.inr (h.snapshot? ▸ snapshot))]
        exact settled
      | some snapshot' =>
        have pass (folds : List LineRange) :
            s.passOver doc snapshot' folds = t.passOver doc snapshot' folds := by
          rw [passOver, passOver, h.settings, h.stateOf]
        rw [delivered_eq hs shown snapshot,
          delivered_eq ht (h.isOpen ▸ shown) (h.snapshot? ▸ snapshot), h.togglesOf, pass]
        refine settled.andThen fun h => h.tellAll ?_
        split
        · exact nameOnly_of_document? (call_document? doc _)
        · exact nameOnly_nil doc

theorem toggle (switch : Switch) :
    Likewise doc s (s.toggle doc switch).2 t (t.toggle doc switch).2 := by
  have live := h.isLive
  cases hs : s.isLive doc with
  | false =>
    rw [Session.toggle, Session.toggle, ← live, hs]
    exact h.stay
  | true =>
    rw [toggle_eq hs, toggle_eq (live ▸ hs), h.togglesOnTrack, h.flipped, h.wraps]
    have flipped : NameOnly doc (t.flipped doc switch) := fun c hc d named => by
      rcases t.flipped_document? doc switch c hc with flag | own
      · cases flag.symm.trans named
      · exact Option.some.inj (named.symm.trans own)
    have wraps := nameOnly_of_document? (t.wraps_document? doc switch)
    exact ((h.tellAll flipped).andThen fun h => h.visit _).andThen fun h => h.tellAll wraps

theorem foldDrawings : Likewise doc s (s.foldDrawings doc).2 t (t.foldDrawings doc).2 := by
  rw [foldDrawings_eq, foldDrawings_eq, h.foldsDrawings]
  exact h.tellAll (nameOnly_of_document? fun c hc => (t.foldsDrawings_document? doc c hc).1)

theorem unfoldDrawings : Likewise doc s (s.unfoldDrawings doc) t (t.unfoldDrawings doc) := by
  rw [unfoldDrawings_eq, unfoldDrawings_eq, h.unfoldsDrawings]
  exact h.tellAll (nameOnly_of_document? fun c hc => (t.unfoldsDrawings_document? doc c hc).1)

/-- What an event of a document does hangs on this document alone. -/
theorem handle {e : Event} (own : e.document? = some doc) :
    Likewise doc s (s.handle e) t (t.handle e) := by
  cases e with
  | cursorMoved d motion => exact Option.some.inj own ▸ h.cursorMoved motion
  | edited d now => exact Option.some.inj own ▸ h.edited now
  | closed d => exact Option.some.inj own ▸ h.closed
  | delivered request folds => exact Option.some.inj own ▸ h.delivered request.generation folds
  | toggle d switch => exact Option.some.inj own ▸ h.toggle switch
  | foldDrawings d => exact Option.some.inj own ▸ h.foldDrawings
  | unfoldDrawings d => exact Option.some.inj own ▸ h.unfoldDrawings
  | activated next => cases own
  | polled now => cases own
  | configured key => cases own

/-- What an event of a document gives back hangs on this document alone. -/
theorem outcome {e : Event} (own : e.document? = some doc) : s.outcome e = t.outcome e := by
  cases e with
  | toggle d switch =>
    obtain rfl : d = doc := Option.some.inj own
    refine congrArg Outcome.toggled ?_
    obtain ⟨calls, -, -, after⟩ := h.toggle switch
    have stands := congrArg (fun toggles : Toggles => toggles.get switch) after.togglesOf
    have live := h.isLive
    cases hs : s.isLive d with
    | false => rw [Session.toggle, Session.toggle, ← live, hs]; rfl
    | true =>
      rw [Session.toggle, Session.toggle, ← live, hs] at stands ⊢
      exact congrArg Except.ok stands
  | foldDrawings d =>
    obtain rfl : d = doc := Option.some.inj own
    refine congrArg Outcome.folded ?_
    rw [Session.foldDrawings, Session.foldDrawings, ← h.isLive, ← h.text?]
    split
    · cases Host.text? s.host d <;> rfl
    · rfl
  | _ => rfl

end

end SameFor

end Session

end TemplatePaint
