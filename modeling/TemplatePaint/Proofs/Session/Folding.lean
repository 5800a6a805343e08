import TemplatePaint.Proofs.Host.Apart
import TemplatePaint.Proofs.Paint.Folded
import TemplatePaint.Proofs.Session.Picture

/-!
# Folding around the cursor

With folding on and nothing selected, a pass expands the first class attribute
that the cursor touches and folds all others (`Session.calls_folded_visit`), and
so does every event that paints the document (`Session.handle_folds`): a visit,
or a click, which visits the document once it has put the cursor where it goes.
A cursor between two attributes that meet touches both, so the second one is
folded around it (`Session.folded_under_cursor`).
-/

namespace TemplatePaint

namespace Snapshot

/-- The first class attribute that the cursor touches. -/
def touched (snapshot : Snapshot) : Option Span :=
  (Span.scan snapshot.text [.classAttribute]).find? (·.range.touches snapshot.cursor)

/-- All class attributes but the one that is expanded are folded. -/
def folded (snapshot : Snapshot) : List Region :=
  ((Span.scan snapshot.text [.classAttribute]).filter fun a => snapshot.touched ≠ some a).map
    fun a => .folded snapshot.text a.range

variable {snapshot : Snapshot} {toggles : Toggles}

/-- With folding on and nothing selected, the attribute that the cursor touches is expanded. -/
theorem expansion_eq (on : toggles.folding = true) (unselected : snapshot.hasSelection = false) :
    snapshot.expansion toggles = snapshot.touched.map (·.range) := by
  rw [expansion, on, unselected]
  rfl

/-- If the cursor touches at most one attribute, those that it does not touch are folded. -/
theorem folded_of_unique
    (one : ∀ a ∈ Span.scan snapshot.text [.classAttribute],
      ∀ b ∈ Span.scan snapshot.text [.classAttribute], a.range.touches snapshot.cursor = true →
        b.range.touches snapshot.cursor = true → a = b) :
    snapshot.folded = ((Span.scan snapshot.text [.classAttribute]).filter
      fun a => !a.range.touches snapshot.cursor).map fun a => .folded snapshot.text a.range := by
  rw [folded, touched, filter_find?_ne one]

end Snapshot

namespace Feature

/-- With folding on and nothing selected, a pass folds all class attributes but the touched one. -/
theorem exists_edit_folded {snapshot : Snapshot} {toggles : Toggles} (on : toggles.folding = true)
    (unselected : snapshot.hasSelection = false) (awaiting : Bool) (settings : Settings)
    (folds : List LineRange) :
    ∃ e ∈ all.flatMap (paints toggles awaiting (.over snapshot toggles settings folds)),
      e.group = .folded ∧ e.regions = snapshot.folded := by
  have expanded : (Pass.over snapshot toggles settings folds).expanded =
      snapshot.touched.map (·.range) := Snapshot.expansion_eq on unselected
  have text : (Pass.over snapshot toggles settings folds).text = snapshot.text := rfl
  generalize Pass.over snapshot toggles settings folds = pass at expanded text ⊢
  have enabled : classFolding.paints toggles awaiting pass = classFolding.edits pass := by
    rw [paints, show classFolding.isEnabled toggles = true from on]
    rfl
  obtain ⟨e, he, own⟩ : ∃ e ∈ classFolding.edits pass, e.group = .folded := by
    refine List.mem_map.1 ?_
    rw [map_group_edits]
    exact List.mem_singleton_self _
  refine ⟨e, List.mem_flatMap.2 ⟨classFolding, by decide, enabled ▸ he⟩, own, ?_⟩
  rw [regions_of_mem_classFolding (fun a found => text ▸ List.mem_of_find?_eq_some found) expanded he,
    text, Snapshot.folded]

end Feature

namespace Session

variable {σ : Type} [Host σ] {doc : String} {snapshot : Snapshot} {before : Recorded σ}
  {s s' : Session (Recorded σ)}

/-- A visit moves no cursor, and folds all class attributes but the one that the cursor touches. -/
theorem calls_folded_visit (shown : Host.snapshot? s.host doc = some snapshot)
    {toggles : Toggles} (on : toggles.folding = true) (unselected : snapshot.hasSelection = false) :
    ∃ calls, (s.visit doc toggles).host.calls = calls ++ s.host.calls ∧
      (∀ c ∈ calls, c.movesCursor = false) ∧
      lastPainted? calls doc .folded = some snapshot.folded := by
  obtain ⟨f, told, visited, still, -⟩ := s.visit_cases doc toggles
  have calls : (s.visit doc toggles).host.calls = told.reverse ++ s.host.calls := by
    rw [visited]
    exact calls_tellAll _ told
  have painted := (calls_visit shown toggles).trans (List.append_assoc ..).symm
  refine ⟨told.reverse, calls, fun c hc => (still c (List.mem_reverse.1 hc)).1, ?_⟩
  obtain ⟨e, he, group, regions⟩ := Feature.exists_edit_folded on unselected
    (s.foldsFor toggles (s.nextRequest doc)).isNone s.settings
    ((s.foldsFor toggles (s.nextRequest doc)).getD [])
  rw [List.append_cancel_right (calls.symm.trans painted), lastPainted?_append, paintsFor, ← group,
    lastPainted?_calls_of_mem (Feature.nodup_groups_paints ..) he, regions]
  rfl

/-- After a visit, all class attributes are folded but the one that the cursor touches. -/
theorem Visited.lastPainted?_folded (h : Visited doc snapshot before s)
    (on : (s.store.togglesOf doc).folding = true) (unselected : snapshot.hasSelection = false) :
    lastPainted? (s.host.callsSince before) doc .folded = some snapshot.folded := by
  obtain ⟨s₁, toggles, shows, left⟩ := h.visit
  have same : s.store.togglesOf doc = toggles := by
    rw [Store.togglesOf, Store.stateOf, left.state]
    exact togglesOf_visit s₁ doc toggles
  obtain ⟨calls, hc, -, folded⟩ := calls_folded_visit shows.snapshot (same ▸ on) unselected
  obtain ⟨calls', hc', unpainted⟩ := left.calls
  have grown : s.host.calls = (calls' ++ calls) ++ s₁.host.calls := by
    rw [hc', hc, List.append_assoc]
  rw [Recorded.callsSince_of_append grown shows.calls, lastPainted?_append, lastPainted?_append,
    unpainted, folded]
  rfl

/-- The event paints the document, if it is live: it visits it, or is a click in it. -/
def repaints (s : Session σ) (doc : String) (e : Event) : Prop :=
  s.visits doc e ∨ e = .cursorMoved doc .mouse

/-- After an event that paints a live document, it was visited as the host shows it then. -/
theorem visited_of_repaints (steady : Host.Steady σ) {e : Event} (live : s.isLive doc = true)
    {first : Snapshot} (shown : Host.snapshot? s.host doc = some first)
    (painted : s.repaints doc e) (shown' : Host.snapshot? (s.handle e).host doc = some snapshot) :
    Visited doc snapshot s.host (s.handle e) := by
  rcases painted with visits | rfl
  · have visited := (Shows.refl live shown).visited_handle steady visits
    obtain rfl := Option.some.inj (visited.shows.snapshot.symm.trans shown')
    exact visited
  · rw [show s.handle (.cursorMoved doc .mouse) = s.cursorMoved doc .mouse from rfl,
      cursorMoved_eq live] at shown' ⊢
    rw [snapshot?_visit _ _ _ steady.recorded] at shown'
    -- the click changes the snapshot, so the document is shown anew before the visit
    refine Shows.visited_visit steady ⟨?_, shown', ?_, suffix_answers_tellAll _ _⟩ _
    · show (s.isTemplate doc && Host.isOpen ((s.clicks doc .mouse).foldl Host.perform s.host) doc) =
        true
      rw [steady.recorded.isOpen_foldl]
      exact live
    · exact ⟨_, (calls_tellAll _ _).symm⟩

/-- After an event that paints a live document with folding on and nothing selected, all class
attributes are folded but the first that the cursor touches. So just those that the cursor does not
touch are folded, if and only if no two attributes meet at the cursor. -/
theorem handle_folds (steady : Host.Steady σ) {e : Event} {first : Snapshot}
    (live : s.isLive doc = true) (shown : Host.snapshot? s.host doc = some first)
    (painted : s.repaints doc e) (shown' : Host.snapshot? (s.handle e).host doc = some snapshot)
    (on : ((s.handle e).store.togglesOf doc).folding = true)
    (unselected : snapshot.hasSelection = false) :
    let attributes := Span.scan snapshot.text [.classAttribute]
    let folded := fun a : Span => Region.folded snapshot.text a.range
    ∃ regions, lastPainted? ((s.handle e).host.callsSince s.host) doc .folded = some regions ∧
      regions = (attributes.filter fun a =>
        attributes.find? (·.range.touches snapshot.cursor) ≠ some a).map folded ∧
      (regions = (attributes.filter fun a => !a.range.touches snapshot.cursor).map folded ↔
        ∀ a ∈ attributes, ∀ b ∈ attributes,
          ¬ (a.range.stop = snapshot.cursor ∧ b.range.start = snapshot.cursor)) := by
  intro attributes folded
  have visited := visited_of_repaints steady live shown painted shown'
  refine ⟨snapshot.folded, visited.lastPainted?_folded on unselected, rfl, ?_⟩
  rw [← Span.touched_unique_iff]
  refine ⟨fun same a ha b hb touched touched' => ?_, Snapshot.folded_of_unique⟩
  -- what is touched and not the first is folded, though it is not among those that are not touched
  have first (c : Span) (hc : c ∈ attributes) (touched : c.range.touches snapshot.cursor = true) :
      snapshot.touched = some c := by
    refine Classical.byContradiction fun other => ?_
    have mem : folded c ∈ snapshot.folded :=
      List.mem_map_of_mem (List.mem_filter.2 ⟨hc, decide_eq_true other⟩)
    rw [same] at mem
    obtain ⟨d, hd, e⟩ := List.mem_map.1 mem
    have range : d.range = c.range := congrArg Region.range e
    simp [range, touched] at hd
  exact Option.some.inj ((first a ha touched).symm.trans (first b hb touched'))

/-- A template with this text, and its cursor at character 9. -/
def twoAttributes (text : String) : Workspace :=
  .ofDocuments (.insert .empty "a.erb" ⟨some text, some 9, false⟩) false

/-- A cursor at the end of the first of two attributes with a blank between them: when folding is
switched on, just the second one is folded, which the cursor does not touch. -/
theorem folded_beside_cursor :
    let s := fresh (twoAttributes "class=\"a\" class=\"b\"") .default
    let s' := s.handle (.toggle "a.erb" .folding)
    let attributes := Span.scan "class=\"a\" class=\"b\"" [.classAttribute]
    s.repaints "a.erb" (.toggle "a.erb" .folding) ∧
      lastPainted? (s'.host.callsSince s.host) "a.erb" .folded =
        some ((attributes.filter fun a => !a.range.touches 9).map fun a =>
          .folded "class=\"a\" class=\"b\"" a.range) ∧
      (attributes.filter fun a => !a.range.touches 9).length = 1 := by
  intro s s' attributes
  have painted : s.repaints "a.erb" (.toggle "a.erb" .folding) := .inl rfl
  obtain ⟨live, shown, shown', on, apart⟩ :
      s.isLive "a.erb" = true ∧
      Host.snapshot? s.host "a.erb" = some (.ofCursor "class=\"a\" class=\"b\"" 9 false) ∧
      Host.snapshot? s'.host "a.erb" = some (.ofCursor "class=\"a\" class=\"b\"" 9 false) ∧
      (s'.store.togglesOf "a.erb").folding = true ∧
      ∀ a ∈ attributes, ∀ b ∈ attributes, ¬ (a.range.stop = 9 ∧ b.range.start = 9) := by
    decide +kernel
  obtain ⟨regions, folded, -, untouched⟩ :=
    handle_folds Workspace.steady live shown painted shown' on rfl
  exact ⟨painted, folded.trans (congrArg some (untouched.2 apart)), by decide +kernel⟩

/-- A cursor between two attributes that meet touches both, and the second one is folded. -/
theorem folded_under_cursor :
    ¬ ∀ (s : Session (Recorded Workspace)) (doc : String) (e : Event) (first snapshot : Snapshot),
      s.isLive doc = true → Host.snapshot? s.host doc = some first → s.repaints doc e →
        Host.snapshot? (s.handle e).host doc = some snapshot →
        ((s.handle e).store.togglesOf doc).folding = true → snapshot.hasSelection = false →
        lastPainted? ((s.handle e).host.callsSince s.host) doc .folded =
          some (((Span.scan snapshot.text [.classAttribute]).filter fun a =>
            !a.range.touches snapshot.cursor).map fun a => .folded snapshot.text a.range) := by
  intro always
  have folded := always (fresh (twoAttributes "class=\"a\"class=\"b\"") .default) "a.erb"
    (.toggle "a.erb" .folding) (.ofCursor "class=\"a\"class=\"b\"" 9 false)
    (.ofCursor "class=\"a\"class=\"b\"" 9 false) (by decide +kernel) (by decide +kernel)
    (.inl rfl) (by decide +kernel) (by decide +kernel) rfl
  revert folded
  decide +kernel

end Session

end TemplatePaint
