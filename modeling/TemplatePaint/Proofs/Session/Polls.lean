import TemplatePaint.Proofs.Session.Held
import TemplatePaint.Proofs.Session.Quiet

/-!
# What a poll paints

A poll paints the documents that are due, one after the other, if they are open
when their turn comes (`openInTurn`, `foldl_quieted`). Since the debouncer
keeps what is owed, these are just the documents that are owed a pass by then
and are open, each painted once and in order: `polled_paints_owed`.
-/

namespace TemplatePaint

/-- The document in which a call paints a group. -/
def HostCall.paintedIn? (g : Group) : HostCall → Option String
  | .paint doc group _ => if group = g then some doc else none
  | _ => none

namespace Feature

/-- A pass paints each group of the features that need no folds once. -/
theorem filterMap_paintedIn?_paints (toggles : Toggles) (awaiting : Bool) (pass : Pass)
    (doc : String) {g : Group} (owned : g ∈ all.flatMap groups) (other : g ∉ frameLinks.groups) :
    ((all.flatMap (paints toggles awaiting pass)).map (·.call doc)).filterMap
      (HostCall.paintedIn? g) = [doc] := by
  have painted (edits : List Edit) : (edits.map (·.call doc)).filterMap (HostCall.paintedIn? g) =
      ((edits.map Edit.group).filter (· = g)).map fun _ => doc := by
    induction edits with
    | nil => rfl
    | cons e es ih =>
      by_cases same : e.group = g <;> simp [HostCall.paintedIn?, Edit.call, same] at ih ⊢ <;>
        exact ih
  -- the groups that are painted are all, or all but those of the frames
  have once : ∀ frames ∈ [[], frameLinks.groups], ∀ g ∈ all.flatMap groups,
      g ∉ frameLinks.groups →
        ((scriptEmphasis.groups ++ classFolding.groups ++ modifierHighlight.groups ++
          controllerLinks.groups ++ frames).filter (· = g)) = [g] := by decide +kernel
  have frames : (if frameLinks.isEnabled toggles && (frameLinks.needsFolds && awaiting) then []
      else frameLinks.groups) ∈ [[], frameLinks.groups] := by
    split <;> simp
  have groups : (all.flatMap (paints toggles awaiting pass)).map Edit.group =
      scriptEmphasis.groups ++ classFolding.groups ++ modifierHighlight.groups ++
        controllerLinks.groups ++
          if frameLinks.isEnabled toggles && (frameLinks.needsFolds && awaiting) then []
          else frameLinks.groups := by
    simp [all, map_group_paints_eq, needsFolds]
  rw [painted, groups, once _ frames g owned other]
  rfl

end Feature

namespace Session

variable {σ : Type} [Host σ]

/-- A document starts a new generation and is painted. -/
def paintAnew (s : Session σ) (doc : String) : Session σ := (s.advance doc).repaint doc

/-- Of some documents that have gone quiet, those that are open when their turn comes. -/
def openInTurn (s : Session σ) : List String → List String
  | [] => []
  | doc :: docs =>
    if Host.isOpen s.host doc then doc :: (s.paintAnew doc).openInTurn docs
    else s.openInTurn docs

/-- The documents that are open when their turn comes are painted, and no others. -/
theorem foldl_quieted (s : Session σ) (docs : List String) :
    docs.foldl quieted s = (s.openInTurn docs).foldl paintAnew s := by
  induction docs generalizing s with
  | nil => rfl
  | cons doc docs ih =>
    cases shown : Host.isOpen s.host doc with
    | false => simp [openInTurn, quieted, shown, ih]
    | true => simp [openInTurn, quieted, shown, ih, paintAnew]

theorem sublist_openInTurn (s : Session σ) (docs : List String) :
    (s.openInTurn docs).Sublist docs := by
  induction docs generalizing s with
  | nil => exact .slnil
  | cons doc docs ih =>
    rw [openInTurn]
    split
    · exact (ih _).cons_cons doc
    · exact (ih s).cons doc

/-- The turn of a document comes when those before it in order have been painted. -/
theorem mem_openInTurn (s : Session σ) {docs : List String} (sorted : docs.Pairwise (· < ·))
    (doc : String) :
    doc ∈ s.openInTurn docs ↔ doc ∈ docs ∧
      Host.isOpen (((s.openInTurn docs).filter (· < doc)).foldl paintAnew s).host doc = true := by
  induction docs generalizing s with
  | nil => simp [openInTurn]
  | cons d docs ih =>
    obtain ⟨first, sorted⟩ := List.pairwise_cons.1 sorted
    -- the documents after the first one come after it in order
    have later (s' : Session σ) : ∀ d' ∈ s'.openInTurn docs, d < d' :=
      fun d' mem => first d' ((s'.sublist_openInTurn docs).subset mem)
    have none (s' : Session σ) : (s'.openInTurn docs).filter (· < d) = [] :=
      List.filter_eq_nil_iff.2 fun d' mem before =>
        String.lt_asymm (later s' d' mem) (of_decide_eq_true before)
    by_cases same : doc = d
    · subst same
      cases shown : Host.isOpen s.host doc with
      | false =>
        rw [openInTurn, shown, if_neg Bool.false_ne_true, none, List.foldl_nil, shown]
        have absent : doc ∉ s.openInTurn docs := fun mem => String.lt_irrefl doc (later s doc mem)
        exact ⟨fun mem => absurd mem absent, fun h => nomatch h.2⟩
      | true =>
        have skip (ds : List String) : (doc :: ds).filter (· < doc) = ds.filter (· < doc) :=
          List.filter_cons_of_neg fun before => String.lt_irrefl doc (of_decide_eq_true before)
        rw [openInTurn, if_pos shown, skip, none, List.foldl_nil]
        exact ⟨fun _ => ⟨List.mem_cons_self, shown⟩, fun _ => List.mem_cons_self⟩
    · rw [List.mem_cons, or_iff_right same]
      cases shown : Host.isOpen s.host d with
      | false =>
        rw [openInTurn, shown, if_neg Bool.false_ne_true]
        exact ih s sorted
      | true =>
        rw [openInTurn, if_pos shown, List.mem_cons, or_iff_right same]
        refine (ih (s.paintAnew d) sorted).trans (and_congr_right fun mem => ?_)
        have keep (ds : List String) : (d :: ds).filter (· < doc) = d :: ds.filter (· < doc) :=
          List.filter_cons_of_pos (decide_eq_true (first doc mem))
        rw [keep, List.foldl_cons]

theorem isOpen_paintAnew (keeps : Host.KeepsOpen σ) (s : Session σ) (doc : String) :
    Host.isOpen (s.paintAnew doc).host = Host.isOpen s.host := by
  funext doc'
  obtain ⟨f, calls, e, -⟩ := s.visit_cases doc (s.store.togglesOf doc)
  rw [paintAnew, advance_eq, ← visit, e]
  exact keeps.foldl s.host calls doc'

/-- If calls neither open nor close documents, those are painted that are open to begin with. -/
theorem openInTurn_eq_filter (keeps : Host.KeepsOpen σ) (s : Session σ) (docs : List String) :
    s.openInTurn docs = docs.filter (Host.isOpen s.host) := by
  induction docs generalizing s with
  | nil => rfl
  | cons doc docs ih =>
    cases shown : Host.isOpen s.host doc <;>
      simp [openInTurn, shown, ih, isOpen_paintAnew keeps]

/-- Painting an open document paints each group of the features that need no folds once. -/
theorem calls_paintAnew (shows : Host.ShowsOpen σ) (s : Session (Recorded σ)) {doc : String}
    (opened : Host.isOpen s.host doc = true) {g : Group}
    (owned : g ∈ Feature.all.flatMap Feature.groups) (other : g ∉ Feature.frameLinks.groups) :
    ∃ calls : List HostCall, (s.paintAnew doc).host.calls = calls.reverse ++ s.host.calls ∧
      calls.filterMap (HostCall.paintedIn? g) = [doc] := by
  obtain ⟨snapshot, hs⟩ := shows.recorded.exists_snapshot opened
  let toggles := s.store.togglesOf doc
  let asks := asksFor toggles (s.nextRequest doc)
  let paints := (s.paintsFor toggles (s.nextRequest doc) snapshot).map (·.call doc)
  refine ⟨asks ++ paints, ?_, ?_⟩
  · have visited : s.paintAnew doc = _ := visit_eq (s := s) hs toggles
    rw [visited, calls_tellAll]
    rfl
  · have unpainted : asks.filterMap (HostCall.paintedIn? g) = [] := by
      simp only [asks, asksFor]
      split <;> rfl
    rw [List.filterMap_append, unpainted, List.nil_append]
    exact Feature.filterMap_paintedIn?_paints _ _ _ doc owned other

/-- In each of these groups, just the documents that are open when their turn comes are painted. -/
theorem calls_foldl_quieted (shows : Host.ShowsOpen σ) {g : Group}
    (owned : g ∈ Feature.all.flatMap Feature.groups) (other : g ∉ Feature.frameLinks.groups)
    (docs : List String) (s : Session (Recorded σ)) :
    ∃ calls : List HostCall, (docs.foldl quieted s).host.calls = calls.reverse ++ s.host.calls ∧
      calls.filterMap (HostCall.paintedIn? g) = s.openInTurn docs := by
  induction docs generalizing s with
  | nil => exact ⟨[], rfl, rfl⟩
  | cons doc docs ih =>
    cases opened : Host.isOpen s.host doc with
    | false =>
      have left : s.quieted doc = s := by rw [quieted, opened]; rfl
      rw [List.foldl_cons, left, openInTurn, opened]
      exact ih s
    | true =>
      have painted : s.quieted doc = s.paintAnew doc := by rw [quieted, opened]; rfl
      obtain ⟨first, made, once⟩ := s.calls_paintAnew shows opened owned other
      obtain ⟨rest, later, turns⟩ := ih (s.paintAnew doc)
      refine ⟨first ++ rest, ?_, ?_⟩
      · rw [List.foldl_cons, painted, later, made]
        simp
      · rw [List.filterMap_append, once, turns, openInTurn, opened]
        rfl

/-- A poll paints just the documents that are open, when their turn comes, and are owed a pass since
a deadline that has come: those with an accepted edit whose quiet interval, the one that was in
force then, is over, where nothing has taken the edit back since. Each is painted once, and they are
painted in order. Which those are does not hang on how the host answers if its calls neither open
nor close documents. What was owed by then is owed no longer, and what is owed later still is; so
the next deadline is later. A change of the settings moves no deadline. -/
theorem polled_paints_owed (shows : Host.ShowsOpen σ) (host : σ) (language : Language)
    (steps : List (Step σ)) (now : Nat) :
    let s := (fresh host language).run steps
    let released := s.onDebouncer (·.release now)
    let owed := fun doc => ∃ deadline ≤ now, (fresh host language).Owes steps doc deadline
    (∃ docs : List String, docs.Pairwise (· < ·) ∧
      s.polled now = docs.foldl paintAnew released ∧
      (∀ g ∈ Feature.all.flatMap Feature.groups, g ∉ Feature.frameLinks.groups →
        ((s.polled now).host.callsSince s.host).reverse.filterMap (HostCall.paintedIn? g) = docs) ∧
      (∀ doc, doc ∈ docs ↔ owed doc ∧
        Host.isOpen ((docs.filter (· < doc)).foldl paintAnew released).host doc = true) ∧
      (Host.KeepsOpen σ → ∀ doc, doc ∈ docs ↔ owed doc ∧ Host.isOpen s.host doc = true)) ∧
    (∀ doc deadline, (fresh host language).Owes (steps ++ [.event (.polled now)]) doc deadline ↔
      (fresh host language).Owes steps doc deadline ∧ now < deadline) ∧
    (∀ next, (s.polled now).debouncer.nextDeadline? = some next → now < next) ∧
    ∀ key, (s.configured key).debouncer.deadlines = s.debouncer.deadlines := by
  intro s released owed
  have due (doc : String) : doc ∈ s.debouncer.due now ↔ owed doc := by
    rw [Debouncer.mem_due]
    constructor
    · rintro ⟨deadline, set, passed⟩
      exact ⟨deadline, passed, (deadline?_run host language steps doc deadline).1 set⟩
    · rintro ⟨deadline, passed, owes⟩
      exact ⟨deadline, (deadline?_run host language steps doc deadline).2 owes, passed⟩
  have sorted := s.debouncer.pairwise_due now
  refine ⟨⟨released.openInTurn (s.debouncer.due now), sorted.sublist (sublist_openInTurn ..),
    foldl_quieted .., ?_, ?_, ?_⟩, fun doc deadline => owes_polled, ?_, ?_⟩
  · intro g owned other
    obtain ⟨calls, made, turns⟩ :=
      calls_foldl_quieted shows owned other (s.debouncer.due now) released
    have since : (s.polled now).host.callsSince s.host = calls.reverse :=
      Recorded.callsSince_eq made
    rw [since, List.reverse_reverse, turns]
  · intro doc
    rw [← due]
    exact mem_openInTurn released sorted doc
  · intro keeps doc
    rw [openInTurn_eq_filter keeps.recorded, List.mem_filter, due]
    rfl
  · intro next earliest
    obtain ⟨doc, waits⟩ := Debouncer.exists_of_nextDeadline? earliest
    have owes : (fresh host language).Owes (steps ++ [.event (.polled now)]) doc next := by
      rw [← deadline?_run, run_append]
      exact waits
    exact (owes_polled.1 owes).2
  · intro key
    have same := s.debouncer_handle (.configured key)
    rw [debouncerAfter] at same
    split at same <;> exact congrArg (·.deadlines) same

end Session

/-- A desk with three templates. -/
def Desk.three : Desk where
  workspace := .ofDocuments (((KeyMap.empty.insert "a.erb" ⟨some "", some 0, false⟩).insert
    "b.erb" ⟨some "", some 0, false⟩).insert "c.erb" ⟨some "", some 0, false⟩) false
  complete := by
    have none : (Workspace.ofDocuments .empty false).IsComplete := fun _ _ h => by cases h
    exact ((none.openDocument ⟨rfl, rfl⟩ "a.erb").openDocument ⟨rfl, rfl⟩ "b.erb").openDocument
      ⟨rfl, rfl⟩ "c.erb"

/-- Three edits: one is taken back, and the last is made when the quiet interval is longer. -/
def Desk.edits : List (Step Desk) :=
  [.event (.edited "c.erb" 0), .event (.edited "a.erb" 0),
    .event (.cursorMoved "c.erb" .keyboard),
    .change fun d => ⟨{ d.workspace with
      settings := .object [("editDebounceMs", .number (.natural 500))] }, d.complete⟩,
    .event (.configured "erbalist"), .event (.edited "b.erb" 100)]

namespace Session

/-- The first edit goes quiet as it was to, the last later, and one poll paints both templates. -/
theorem polled_paints_two_of_three :
    let s := (fresh Desk.three .default).run Desk.edits
    (s.deadline? "a.erb", s.deadline? "b.erb", s.deadline? "c.erb") =
        (some 150, some 600, none) ∧
      (∀ doc, doc ∈ ["a.erb", "b.erb"] ↔
        (∃ deadline ≤ 600, (fresh Desk.three .default).Owes Desk.edits doc deadline) ∧
          Host.isOpen s.host doc = true) ∧
      (s.polled 600).debouncer.nextDeadline? = none := by
  intro s
  obtain ⟨docs, -, -, painted, -, whatever⟩ :=
    (polled_paints_owed Desk.presents.showsOpen Desk.three .default Desk.edits 600).1
  obtain rfl : docs = ["a.erb", "b.erb"] :=
    (painted .folded (by decide +kernel) (by decide +kernel)).symm.trans (by decide +kernel)
  exact ⟨by decide +kernel, whatever fun d call doc => Workspace.steady.keepsOpen d.workspace call doc,
    by decide +kernel⟩

end Session

end TemplatePaint
