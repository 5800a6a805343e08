import TemplatePaint.Host.Canvas
import TemplatePaint.Proofs.Session.Picture

/-!
# What is held is enabled

A session paints on a canvas, which holds the paint of a document until the
document is closed. Whatever the canvas holds in a group belongs to a tracked
document for which the feature that owns the group is on:
`held_only_if_enabled`. One invariant carries this (`Licensed`). A visit keeps
it, for it clears every group whose feature is off (`licensed_of_edits`), and
so does an answer that is delivered late, for it paints the frames only if they
are on.

This needs a host that presents its open documents (`Host.Presents`): a pass
over a document that is not shown could not clear what was painted there.
-/

namespace TemplatePaint

/-- The host has a text and a cursor of every open document. -/
def Host.ShowsOpen (σ : Type) [Host σ] : Prop :=
  ∀ (host : σ) (doc : String), Host.isOpen host doc = true →
    (Host.text? host doc).isSome = true ∧ (Host.cursor? host doc).isSome = true

/-- A host presents its open documents: it has a text and a cursor of each, and no call closes
one. -/
structure Host.Presents (σ : Type) [Host σ] : Prop where
  showsOpen : Host.ShowsOpen σ
  stays : ∀ (host : σ) (call : HostCall) (doc : String), Host.isOpen host doc = true →
    Host.isOpen (Host.perform host call) doc = true

namespace Host.ShowsOpen

variable {σ : Type} [Host σ]

theorem recorded (shows : Host.ShowsOpen σ) : Host.ShowsOpen (Recorded σ) :=
  fun r doc => shows r.host doc

theorem exists_snapshot (shows : Host.ShowsOpen σ) {host : σ} {doc : String}
    (h : Host.isOpen host doc = true) : ∃ snapshot, Host.snapshot? host doc = some snapshot := by
  obtain ⟨text?, cursor?⟩ := shows host doc h
  obtain ⟨text, ht⟩ := Option.isSome_iff_exists.1 text?
  obtain ⟨cursor, hc⟩ := Option.isSome_iff_exists.1 cursor?
  refine ⟨.ofCursor text cursor (Host.hasSelection host doc), ?_⟩
  simp [Host.snapshot?, ht, hc]

end Host.ShowsOpen

namespace Host.Presents

variable {σ : Type} [Host σ]

theorem canvas (presents : Host.Presents σ) : Host.Presents (Canvas σ) where
  showsOpen c doc := presents.showsOpen c.host doc
  stays c call doc := presents.stays c.host call doc

theorem isOpen_foldl (presents : Host.Presents σ) {host : σ} {doc : String}
    (h : Host.isOpen host doc = true) (calls : List HostCall) :
    Host.isOpen (calls.foldl Host.perform host) doc = true := by
  induction calls generalizing host with
  | nil => exact h
  | cons call calls ih => exact ih (presents.stays host call doc h)

end Host.Presents

/-- With these toggles, the group belongs to a feature that is on. -/
def Toggles.allow (t : Toggles) (g : Group) : Prop :=
  ∃ f : Feature, g ∈ f.groups ∧ f.isEnabled t = true

/-! ## Edits of a pass -/

namespace Feature

/-- A feature paints regions only in its own groups, and only if it is on. -/
theorem allow_of_mem_paints {toggles : Toggles} {awaiting : Bool} {pass : Pass} {f : Feature}
    {e : Edit} (he : e ∈ f.paints toggles awaiting pass) (hr : e.regions ≠ []) :
    toggles.allow e.group := by
  rw [paints] at he
  split at he
  · obtain ⟨g, -, rfl⟩ := List.mem_map.1 he
    exact absurd rfl hr
  · rename_i on
    split at he
    · simp at he
    · have own : e.group ∈ f.groups := map_group_edits pass f ▸ List.mem_map_of_mem he
      exact ⟨f, own, by simpa using on⟩

/-- A feature that is off clears each of its groups. -/
theorem mem_group_paints {toggles : Toggles} {awaiting : Bool} {pass : Pass} {f : Feature}
    (off : f.isEnabled toggles = false) {g : Group} (hg : g ∈ f.groups) :
    g ∈ (f.paints toggles awaiting pass).map Edit.group := by
  rw [paints, off]
  simp [Edit.map_group_clearAll, hg]

theorem mem_all (f : Feature) : f ∈ all := by
  cases f <;> decide

end Feature

/-- What a canvas holds after edits of a document was painted by them, or was held before, in a
group that they leave. -/
theorem exists_edit_of_held {σ : Type} [Host σ] {c : Canvas σ} {edits : List Edit} {doc : String}
    {g : Group} (h : ((edits.map (·.call doc)).foldl Host.perform c).held doc g ≠ []) :
    (∃ e ∈ edits, e.group = g ∧ e.regions ≠ []) ∨
      (g ∉ edits.map Edit.group ∧ c.held doc g ≠ []) := by
  rw [Canvas.held_foldl] at h
  by_cases hg : g ∈ edits.map Edit.group
  · obtain ⟨regions, hr⟩ := exists_lastPainted?_calls hg doc
    obtain ⟨call, hc, hp⟩ := List.exists_of_findSome?_eq_some hr
    obtain ⟨e, he, rfl⟩ := List.mem_map.1 (List.mem_reverse.1 hc)
    rw [hr] at h
    rw [painting?_call] at hp
    split at hp
    · rename_i own
      obtain rfl := Option.some.inj hp
      exact .inl ⟨e, he, own.2, h⟩
    · cases hp
  · rw [lastPainted?_calls_of_not_mem hg] at h
    exact .inr ⟨hg, h⟩

/-- Edits of one document leave what is held in another. -/
theorem held_foldl_of_ne {σ : Type} [Host σ] {doc doc' : String} (h : doc' ≠ doc) (c : Canvas σ)
    (edits : List Edit) (g : Group) :
    ((edits.map (·.call doc)).foldl Host.perform c).held doc' g = c.held doc' g := by
  rw [Canvas.held_foldl, lastPainted?_calls_of_ne h]
  rfl

/-- Calls that paint nothing leave what is held. -/
theorem held_foldl_of_unpainted {σ : Type} [Host σ] {calls : List HostCall}
    (h : ∀ call ∈ calls, ∀ doc g, call.painting? doc g = none) (c : Canvas σ) (doc : String)
    (g : Group) : (calls.foldl Host.perform c).held doc g = c.held doc g := by
  have none : lastPainted? calls.reverse doc g = none :=
    lastPainted?_eq_none fun call hc => h call (List.mem_reverse.1 hc) doc g
  rw [Canvas.held_foldl, none]
  rfl

namespace Session

variable {σ : Type} [Host σ] {s s' : Session (Canvas σ)}

/-! ## The invariant -/

/-- Whatever is held of a document in a group, the document is tracked, and its toggles allow
it. -/
def Licensed (s : Session (Canvas σ)) : Prop :=
  ∀ doc g, s.host.held doc g ≠ [] → ∃ d, s.store.get? doc = some d ∧ d.toggles.allow g

omit [Host σ] in
/-- If nothing more is held, and tracked documents keep their toggles, the invariant is kept. -/
theorem Licensed.of_toggles (h : s.Licensed)
    (held : ∀ doc g, s'.host.held doc g ≠ [] → s.host.held doc g ≠ [])
    (toggles : ∀ doc d, s.store.get? doc = some d →
      ∃ d', s'.store.get? doc = some d' ∧ d'.toggles = d.toggles) : s'.Licensed := by
  intro doc g hg
  obtain ⟨d, hd, allowed⟩ := h doc g (held doc g hg)
  obtain ⟨d', hd', e⟩ := toggles doc d hd
  exact ⟨d', hd', e ▸ allowed⟩

/-- A change of one document that keeps its toggles keeps those of all. -/
theorem toggles_change {store : Store} {doc : String} {f : DocumentState → DocumentState}
    (hf : ∀ d, store.get? doc = some d → (f d).toggles = d.toggles) (doc' : String)
    (d : DocumentState) (hd : store.get? doc' = some d) :
    ∃ d', (store.change doc f).get? doc' = some d' ∧ d'.toggles = d.toggles := by
  rw [Store.get?_change]
  split
  · rename_i e
    subst e
    exact ⟨_, rfl, by rw [Store.stateOf_of_get? hd, hf d hd]⟩
  · exact ⟨d, hd, rfl⟩

/-- Edits of a document that paint only what its new toggles allow, and paint over what these no
longer allow, keep the invariant. -/
theorem licensed_of_edits (h : s.Licensed) {doc : String} {d : DocumentState} {edits : List Edit}
    (hd : s'.store.get? doc = some d)
    (others : ∀ doc', doc' ≠ doc → s'.store.get? doc' = s.store.get? doc')
    (held : s'.host.held = ((edits.map (·.call doc)).foldl Host.perform s.host).held)
    (allowed : ∀ e ∈ edits, e.regions ≠ [] → d.toggles.allow e.group)
    (kept : ∀ g d₀, s.store.get? doc = some d₀ → d₀.toggles.allow g →
      g ∉ edits.map Edit.group → d.toggles.allow g) : s'.Licensed := by
  intro doc' g hg
  rw [held] at hg
  by_cases e : doc' = doc
  · subst e
    refine ⟨d, hd, ?_⟩
    rcases exists_edit_of_held hg with ⟨e, he, rfl, hr⟩ | ⟨left, before⟩
    · exact allowed e he hr
    · obtain ⟨d₀, hd₀, allowed₀⟩ := h doc' g before
      exact kept g d₀ hd₀ allowed₀ left
  · rw [held_foldl_of_ne e] at hg
    rw [others doc' e]
    exact h doc' g hg

/-- A visit paints what the new toggles allow, and clears what they do not. -/
theorem licensed_visit (h : s.Licensed) {doc : String} {snapshot : Snapshot}
    (hs : Host.snapshot? s.host doc = some snapshot) (toggles : Toggles) :
    (s.visit doc toggles).Licensed := by
  have asked : ∀ call ∈ asksFor toggles (s.nextRequest doc), ∀ d g, call.painting? d g = none := by
    intro call hc d g
    rw [asksFor] at hc
    split at hc
    · obtain rfl := List.mem_singleton.1 hc
      rfl
    · simp at hc
  have told : (s.tellAll (asksFor toggles (s.nextRequest doc))).Licensed :=
    h.of_toggles (fun d g hg => held_foldl_of_unpainted asked s.host d g ▸ hg)
      fun d st hd => ⟨st, hd, rfl⟩
  rw [visit_eq hs, tellAll_append]
  have tracked : (s.store.change doc fun _ => s.stateAfter toggles (s.nextRequest doc) snapshot).get?
      doc = some (s.stateAfter toggles (s.nextRequest doc) snapshot) :=
    (Store.get?_change ..).trans (if_pos rfl)
  refine licensed_of_edits told tracked ?_ rfl ?_ ?_
  · exact fun doc' hne => (Store.get?_change ..).trans (if_neg hne)
  · intro e he hr
    obtain ⟨f, -, hf⟩ := List.mem_flatMap.1 he
    exact Feature.allow_of_mem_paints hf hr
  · -- a feature that owns a group which is left is on, for it would have cleared the group
    rintro g d₀ - ⟨f, own, -⟩ left
    refine ⟨f, own, ?_⟩
    show f.isEnabled toggles = true
    by_contra off
    apply left
    rw [paintsFor, List.map_flatMap]
    exact List.mem_flatMap.2 ⟨f, f.mem_all, Feature.mem_group_paints (by simpa using off) own⟩

/-- Settling a request keeps the toggles of all documents. -/
theorem toggles_settle (store : Store) (request : FoldRequest) (doc : String) (d : DocumentState)
    (hd : store.get? doc = some d) :
    ∃ d', (store.settle request).get? doc = some d' ∧ d'.toggles = d.toggles := by
  rw [Store.get?_settle, hd]
  split
  · exact ⟨_, rfl, rfl⟩
  · exact ⟨d, rfl, rfl⟩

/-- A delivered answer paints the frames only if they are on. -/
theorem licensed_delivered (h : s.Licensed) (request : FoldRequest)
    (folds : Except String (List LineRange)) : (s.delivered request folds).Licensed := by
  have settled : (s.onStore (·.settle request)).Licensed :=
    h.of_toggles (fun _ _ hg => hg) (toggles_settle s.store request)
  cases ha : s.store.awaits request with
  | false => rwa [delivered_of_not_awaits ha folds]
  | true =>
    cases ho : Host.isOpen s.host request.document with
    | false => rwa [delivered_of_hidden ha (.inl ho) folds]
    | true =>
      cases hs : Host.snapshot? s.host request.document with
      | none => rwa [delivered_of_hidden ha (.inr hs) folds]
      | some snapshot =>
        rw [delivered_eq ha ho hs folds]
        split
        · rename_i on
          obtain ⟨d, hd, -⟩ := (Store.awaits_iff _ _).1 ha
          obtain ⟨d', hd', toggles⟩ := toggles_settle s.store request _ d hd
          rw [Store.togglesOf, Store.stateOf_of_get? hd] at on
          refine licensed_of_edits settled hd' (fun _ _ => rfl) rfl ?_ ?_
          · intro e he _
            refine ⟨.frameLinks, Feature.map_group_edits _ .frameLinks ▸ List.mem_map_of_mem he, ?_⟩
            simpa [Feature.isEnabled, Feature.switch?, Toggles.get, toggles] using on
          · intro g d₀ hd₀ allowed _
            obtain rfl : d' = d₀ := Option.some.inj (hd'.symm.trans hd₀)
            exact allowed
        · exact settled

/-- Every move keeps the invariant. -/
theorem Move.licensed (presents : Host.Presents σ) {s s' : Session (Canvas σ)} (m : Move s s')
    (h : s.Licensed) : s'.Licensed := by
  have remarked {calls : List HostCall} (hc : ∀ c ∈ calls, c.isRemark = true) :
      (s.tellAll calls).Licensed :=
    h.of_toggles (fun doc g hg => held_foldl_of_unpainted
      (fun call hm doc g => painting?_of_isRemark (hc call hm) doc g) s.host doc g ▸ hg)
      fun doc d hd => ⟨d, hd, rfl⟩
  cases m with
  | remark calls hc => exact remarked hc
  | adjust settings debouncer active => exact h
  | touch ho =>
    refine h.of_toggles (fun _ _ hg => hg) (toggles_change fun d hd => ?_)
    rw [togglesOnTrack, hd]
  | leave doc =>
    refine h.of_toggles (fun _ _ hg => hg) fun doc' d hd => ?_
    obtain ⟨d', hd', e⟩ : ∃ d', (s.store.advance doc).get? doc' = some d' ∧
        d'.toggles = d.toggles :=
      toggles_change (f := fun d => { d with generation := d.generation + 1 }) (fun _ _ => rfl)
        doc' d hd
    show ∃ d', ((s.store.advance doc).dropRequest doc).get? doc' = some d' ∧ _
    rw [Store.get?_dropRequest]
    split
    · rename_i hdoc
      subst hdoc
      exact ⟨_, congrArg _ hd', e⟩
    · exact ⟨d', hd', e⟩
  | visit toggles calls ho hc =>
    rename_i doc
    obtain ⟨snapshot, hs⟩ := presents.canvas.showsOpen.exists_snapshot
      (presents.canvas.isOpen_foldl ho calls)
    exact licensed_visit (remarked hc) hs toggles
  | clear ht =>
    rename_i doc
    rw [paint_eq]
    refine h.of_toggles (fun doc' g hg => ?_) fun doc d hd => ⟨d, hd, rfl⟩
    by_cases e : doc' = doc
    · subst e
      rcases exists_edit_of_held hg with ⟨e, he, -, hr⟩ | ⟨-, before⟩
      · obtain ⟨g, -, rfl⟩ := List.mem_map.1 he
        exact absurd rfl hr
      · exact before
    · exact held_foldl_of_ne e s.host _ g ▸ hg
  | deliver request folds => exact licensed_delivered h request folds

/-! ## Runs on a canvas -/

/-- The session after a step. The paint of a document is dropped when the document is closed, and
the host changes by itself beside what is painted. -/
def canvasStep (s : Session (Canvas σ)) : Step σ → Session (Canvas σ)
  | .event (.closed doc) => { s with host := s.host.drop doc }.closed doc
  | .event e => s.handle e
  | .change f => { s with host := { s.host with host := f s.host.host } }

/-- The session after some steps, on a canvas that held nothing at first. -/
def canvasRun (host : σ) (language : Language) (steps : List (Step σ)) : Session (Canvas σ) :=
  steps.foldl canvasStep (start (.blank host) language)

theorem licensed_canvasStep (presents : Host.Presents σ) (h : s.Licensed) (a : Step σ) :
    (s.canvasStep a).Licensed := by
  have handled (e : Event) (he : ∀ doc, e ≠ .closed doc) : (s.handle e).Licensed :=
    (s.handle_moves e he).keeps (fun m => m.licensed presents) h
  cases a with
  | change f => exact h
  | event e =>
    cases e with
    | closed doc =>
      intro doc' g hg
      have held : (if doc' = doc then [] else s.host.held doc' g) ≠ [] := hg
      by_cases e : doc' = doc
      · rw [if_pos e] at held
        exact absurd rfl held
      · rw [if_neg e] at held
        show ∃ d, (s.store.erase doc).get? doc' = some d ∧ _
        rw [KeyMap.get?_erase, if_neg e]
        exact h doc' g held
    | _ => exact handled _ (by simp)

/-- After every run, and so after every step of it: if regions are held in a group of a document,
then the document is tracked, and the feature that owns the group is on for it. -/
theorem held_only_if_enabled (presents : Host.Presents σ) (host : σ) (language : Language)
    (steps : List (Step σ)) {doc : String} {g : Group}
    (held : (canvasRun host language steps).host.held doc g ≠ []) :
    ∃ d, (canvasRun host language steps).store.get? doc = some d ∧
      ∃ f : Feature, g ∈ f.groups ∧ f.isEnabled d.toggles = true := by
  suffices ∀ s : Session (Canvas σ), s.Licensed → (steps.foldl canvasStep s).Licensed from
    this _ (fun _ _ hg => absurd rfl hg) doc g held
  clear held
  induction steps with
  | nil => exact fun s h => h
  | cons a steps ih => exact fun s h => ih _ (licensed_canvasStep presents h a)

end Session

/-! ## A host that presents its documents -/

namespace Workspace

/-- Every open document has a text and a cursor. -/
def IsComplete (w : Workspace) : Prop :=
  ∀ doc d, w.documents.get? doc = some d → d.text.isSome = true ∧ d.cursor.isSome = true

theorem IsComplete.openDocument {w : Workspace} (h : w.IsComplete) {d : OpenDocument}
    (hd : d.text.isSome = true ∧ d.cursor.isSome = true) (doc : String) :
    (w.openDocument doc d).IsComplete := by
  intro doc' d' hd'
  rw [Workspace.openDocument, KeyMap.get?_insert] at hd'
  split at hd'
  · exact Option.some.inj hd' ▸ hd
  · exact h doc' d' hd'

theorem IsComplete.perform {w : Workspace} (h : w.IsComplete) (call : HostCall) :
    (Host.perform w call).IsComplete := by
  show (if w.takes call then w.obey call else w).IsComplete
  split
  · cases call with
    | setCursor doc offset =>
      show (w.edit doc _).IsComplete
      rw [edit]
      split
      · rename_i d hd
        refine h.openDocument ?_ doc
        exact ⟨(h doc d hd).1, rfl⟩
      · exact h
    | _ => exact h
  · exact h

end Workspace

/-- A workspace in which every open document has a text and a cursor. -/
structure Desk where
  workspace : Workspace
  complete : workspace.IsComplete

namespace Desk

instance : Host Desk where
  isOpen d doc := Host.isOpen d.workspace doc
  text? d doc := Host.text? d.workspace doc
  cursor? d doc := Host.cursor? d.workspace doc
  hasSelection d doc := Host.hasSelection d.workspace doc
  settings d := Host.settings d.workspace
  visible d := Host.visible d.workspace
  stored? d doc := Host.stored? d.workspace doc
  answer d request := Host.answer d.workspace request
  perform d call := ⟨Host.perform d.workspace call, d.complete.perform call⟩

theorem presents : Host.Presents Desk where
  showsOpen d doc h := by
    obtain ⟨document, hd⟩ := Option.isSome_iff_exists.1 h
    have complete := d.complete doc document hd
    show ((d.workspace.documents.get? doc).bind _).isSome = true ∧
      ((d.workspace.documents.get? doc).bind _).isSome = true
    rwa [hd]
  stays d call doc h := (Workspace.steady.keepsOpen d.workspace call doc).trans h

/-- A desk with a framed template, whose folds are delivered later. -/
def framed : Desk where
  workspace := { Workspace.ofDocuments (KeyMap.empty.insert "a.erb"
      ⟨some "<turbo-frame id=\"a\">\n</turbo-frame>\n", some 30, false⟩) false with
    answer := .pending }
  complete := Workspace.IsComplete.openDocument (w := .ofDocuments .empty false)
    (fun _ _ h => by cases h) ⟨rfl, rfl⟩ "a.erb"

end Desk

namespace Session

/-- When the folds of a template are delivered, the lines of its frame are held, for the frames are
on; once they are switched off, nothing is held there, and a second delivery changes nothing. -/
theorem held_lines_of_frame :
    let steps := [.event (.activated (some "a.erb")),
      .event (.delivered ⟨"a.erb", 1⟩ (.ok [⟨0, 1⟩]))]
    let s := canvasRun Desk.framed .default steps
    s.host.held "a.erb" .frameScope ≠ [] ∧
      (∃ d, s.store.get? "a.erb" = some d ∧
        ∃ f : Feature, .frameScope ∈ f.groups ∧ f.isEnabled d.toggles = true) ∧
      (canvasRun Desk.framed .default (steps ++ [.event (.toggle "a.erb" .frames),
        .event (.delivered ⟨"a.erb", 1⟩ (.ok [⟨0, 1⟩]))])).host.held "a.erb" .frameScope = [] := by
  intro steps s
  have held : s.host.held "a.erb" .frameScope ≠ [] := by decide +kernel
  exact ⟨held, held_only_if_enabled Desk.presents Desk.framed .default steps held,
    by decide +kernel⟩

end Session

end TemplatePaint
