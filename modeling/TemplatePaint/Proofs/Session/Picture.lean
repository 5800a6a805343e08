import Mathlib.Data.List.Flatten
import Mathlib.Data.List.Nodup
import TemplatePaint.Proofs.Session.Record

/-!
# The picture of a document

What a document shows after it was painted: in each group that the features
own, the regions that they give for its snapshot, its toggles, the settings and
its folds (`picture`). Nothing of what was before counts, for every feature
gives an edit for each of its groups, and no two features own the same group
(`groups_paints`, `nodup_groups`).

An event that paints a document paints its picture: `handle_pictures`. It
visits the document, and may paint other documents too, before or after, which
leaves the document as it is (`leaves_visit`, `Shows.visited_handle`).
-/

namespace TemplatePaint

/-! ## What edits leave painted -/

theorem lastPainted?_append (new old : List HostCall) (doc : String) (g : Group) :
    lastPainted? (new ++ old) doc g = (lastPainted? new doc g).or (lastPainted? old doc g) :=
  List.findSome?_append

theorem lastPainted?_eq_none {calls : List HostCall} {doc : String} {g : Group}
    (h : ∀ c ∈ calls, c.painting? doc g = none) : lastPainted? calls doc g = none :=
  List.findSome?_eq_none_iff.2 h

theorem painting?_of_isRemark {call : HostCall} (h : call.isRemark = true) (doc : String)
    (g : Group) : call.painting? doc g = none := by
  cases call <;> first | rfl | cases h

theorem painting?_call (e : Edit) (doc doc' : String) (g : Group) :
    (e.call doc).painting? doc' g =
      if doc = doc' ∧ e.group = g then some e.regions else none := rfl

/-- Edits of one document do not paint another. -/
theorem lastPainted?_calls_of_ne {doc doc' : String} (h : doc' ≠ doc) (edits : List Edit)
    (g : Group) : lastPainted? (edits.map (·.call doc)).reverse doc' g = none := by
  refine lastPainted?_eq_none fun c hc => ?_
  obtain ⟨e, -, rfl⟩ := List.mem_map.1 (List.mem_reverse.1 hc)
  rw [painting?_call, if_neg fun he => h he.1.symm]

/-- Edits do not paint the groups of which they have none. -/
theorem lastPainted?_calls_of_not_mem {edits : List Edit} {g : Group}
    (h : g ∉ edits.map Edit.group) (doc doc' : String) :
    lastPainted? (edits.map (·.call doc)).reverse doc' g = none := by
  refine lastPainted?_eq_none fun c hc => ?_
  obtain ⟨e, he, rfl⟩ := List.mem_map.1 (List.mem_reverse.1 hc)
  have hne : e.group ≠ g := fun hg => h (hg ▸ List.mem_map_of_mem he)
  rw [painting?_call, if_neg fun hg => hne hg.2]

/-- Edits paint every group of which they have one. -/
theorem exists_lastPainted?_calls {edits : List Edit} {g : Group} (h : g ∈ edits.map Edit.group)
    (doc : String) : ∃ regions, lastPainted? (edits.map (·.call doc)).reverse doc g =
      some regions := by
  obtain ⟨e, he, rfl⟩ := List.mem_map.1 h
  refine Option.isSome_iff_exists.1 (List.findSome?_isSome_iff.2 ⟨e.call doc, ?_, ?_⟩)
  · exact List.mem_reverse.2 (List.mem_map_of_mem he)
  · rw [painting?_call, if_pos ⟨rfl, rfl⟩]
    rfl

/-- Of edits with different groups, each one stays. -/
theorem lastPainted?_calls_of_mem {edits : List Edit} (h : (edits.map Edit.group).Nodup) {e : Edit}
    (he : e ∈ edits) (doc : String) :
    lastPainted? (edits.map (·.call doc)).reverse doc e.group = some e.regions := by
  obtain ⟨regions, hr⟩ := exists_lastPainted?_calls (List.mem_map_of_mem he) doc
  obtain ⟨c, hc, hp⟩ := List.exists_of_findSome?_eq_some hr
  obtain ⟨e', he', rfl⟩ := List.mem_map.1 (List.mem_reverse.1 hc)
  rw [painting?_call] at hp
  split at hp
  · rename_i hg
    rw [hr, ← hp, List.inj_on_of_nodup_map h he' he hg.2]
  · cases hp

/-! ## The picture -/

/-- The regions that the features give for a group. -/
def picture (snapshot : Snapshot) (toggles : Toggles) (settings : Settings)
    (folds : List LineRange) (g : Group) : List Region :=
  let edits := Feature.all.flatMap
    (Feature.paints toggles false (.over snapshot toggles settings folds))
  ((edits.find? (·.group = g)).map Edit.regions).getD []

namespace Feature

/-- No two features own the same group. -/
theorem nodup_groups : (all.flatMap groups).Nodup := by decide

example : (all.flatMap groups).length = 11 := by decide

/-- A feature paints each of its groups once, unless its folds are awaited. -/
theorem map_group_paints_eq (toggles : Toggles) (awaiting : Bool) (pass : Pass) (f : Feature) :
    (f.paints toggles awaiting pass).map Edit.group =
      if f.isEnabled toggles && (f.needsFolds && awaiting) then [] else f.groups := by
  rw [paints]
  cases f.isEnabled toggles with
  | false => exact Edit.map_group_clearAll _
  | true =>
    cases f.needsFolds && awaiting with
    | true => rfl
    | false => exact map_group_edits _ _

/-- A feature that does not wait for folds gives an edit for each of its groups. -/
theorem map_group_paints (toggles : Toggles) (pass : Pass) (f : Feature) :
    (f.paints toggles false pass).map Edit.group = f.groups := by
  rw [map_group_paints_eq, Bool.and_false, Bool.and_false]
  rfl

/-- No group is painted twice in a pass. -/
theorem nodup_groups_paints (toggles : Toggles) (awaiting : Bool) (pass : Pass) :
    ((all.flatMap (paints toggles awaiting pass)).map Edit.group).Nodup := by
  rw [List.map_flatMap]
  refine nodup_groups.sublist (List.Sublist.flatMap_right _ fun f _ => ?_)
  rw [map_group_paints_eq]
  split
  · exact List.nil_sublist _
  · exact List.Sublist.refl _

theorem groups_paints (toggles : Toggles) (pass : Pass) :
    (all.flatMap (paints toggles false pass)).map Edit.group = all.flatMap groups := by
  rw [List.map_flatMap]
  simp only [map_group_paints]

/-- Without the frames, the folds do not count. -/
theorem paints_folds_congr {toggles : Toggles} (h : toggles.frames = false) (snapshot : Snapshot)
    (settings : Settings) (folds folds' : List LineRange) (f : Feature) :
    f.paints toggles false (.over snapshot toggles settings folds) =
      f.paints toggles false (.over snapshot toggles settings folds') := by
  cases f with
  | frameLinks =>
    have off : frameLinks.isEnabled toggles = false := by
      simp [isEnabled, switch?, Toggles.get, h]
    rw [paints, paints, off]
    rfl
  | _ => rfl

end Feature

/-- Once the features have painted, each group shows its picture. -/
theorem lastPainted?_picture (snapshot : Snapshot) (toggles : Toggles) (settings : Settings)
    (folds : List LineRange) (doc : String) {g : Group}
    (hg : g ∈ Feature.all.flatMap Feature.groups) :
    lastPainted? (((Feature.all.flatMap
        (Feature.paints toggles false (.over snapshot toggles settings folds))).map
        (·.call doc)).reverse) doc g = some (picture snapshot toggles settings folds g) := by
  have groups := Feature.groups_paints toggles (.over snapshot toggles settings folds)
  rw [picture]
  generalize Feature.all.flatMap
    (Feature.paints toggles false (.over snapshot toggles settings folds)) = edits at groups ⊢
  have nodup : (edits.map Edit.group).Nodup := groups ▸ Feature.nodup_groups
  obtain ⟨e, he, rfl⟩ := List.mem_map.1 (groups ▸ hg : g ∈ edits.map Edit.group)
  rw [lastPainted?_calls_of_mem nodup he]
  cases hf : edits.find? (·.group = e.group) with
  | none => exact absurd (decide_eq_true rfl) (List.find?_eq_none.1 hf e he)
  | some e' =>
    have hg : e'.group = e.group := by simpa using List.find?_some hf
    rw [List.inj_on_of_nodup_map nodup (List.mem_of_find?_eq_some hf) he hg]
    rfl

namespace Session

variable {σ : Type} [Host σ] {doc : String} {snapshot : Snapshot} {before : Recorded σ}
  {s s' : Session (Recorded σ)}

/-! ## Other documents -/

/-- Between two sessions, a document was left as it is. -/
structure Leaves (doc : String) (s s' : Session (Recorded σ)) : Prop where
  state : s'.store.get? doc = s.store.get? doc
  settings : s'.settings = s.settings
  calls : ∃ calls, s'.host.calls = calls ++ s.host.calls ∧ ∀ g, lastPainted? calls doc g = none
  answers : ∃ answers, s'.host.answers = answers ++ s.host.answers ∧
    lastAnswer? answers doc = none

omit [Host σ] in
theorem Leaves.refl : Leaves doc s s :=
  ⟨rfl, rfl, ⟨[], rfl, fun _ => rfl⟩, ⟨[], rfl, rfl⟩⟩

omit [Host σ] in
theorem Leaves.trans {s'' : Session (Recorded σ)} (l : Leaves doc s s') (l' : Leaves doc s' s'') :
    Leaves doc s s'' := by
  obtain ⟨calls, hc, unpainted⟩ := l.calls
  obtain ⟨calls', hc', unpainted'⟩ := l'.calls
  obtain ⟨answers, ha, unasked⟩ := l.answers
  obtain ⟨answers', ha', unasked'⟩ := l'.answers
  refine ⟨l'.state.trans l.state, l'.settings.trans l.settings, ⟨calls' ++ calls, ?_, fun g => ?_⟩,
    ⟨answers' ++ answers, ?_, ?_⟩⟩
  · rw [hc', hc, List.append_assoc]
  · rw [lastPainted?_append, unpainted', unpainted]
    rfl
  · rw [ha', ha, List.append_assoc]
  · rw [lastAnswer?_append, unasked', unasked]
    rfl

omit [Host σ] in
/-- A document that was left shows what it showed. -/
theorem Leaves.lastPainted? (l : Leaves doc s s') (g : Group) :
    lastPainted? s'.host.calls doc g = lastPainted? s.host.calls doc g := by
  obtain ⟨calls, hc, unpainted⟩ := l.calls
  rw [hc, lastPainted?_append, unpainted, Option.none_or]

omit [Host σ] in
/-- A document that was left was asked for last when it was before. -/
theorem Leaves.lastAnswer? (l : Leaves doc s s') (grown : before.answers <:+ s.host.answers) :
    lastAnswer? (s'.host.answersSince before) doc =
      lastAnswer? (s.host.answersSince before) doc := by
  obtain ⟨answers, ha, unasked⟩ := l.answers
  rw [Recorded.answersSince_of_append ha grown, lastAnswer?_append, unasked, Option.none_or]

/-- Remarks leave every document. -/
theorem leaves_tellAll (s : Session (Recorded σ)) {calls : List HostCall}
    (h : ∀ c ∈ calls, c.isRemark = true) (doc : String) : Leaves doc s (s.tellAll calls) where
  state := rfl
  settings := rfl
  calls := ⟨calls.reverse, calls_tellAll s calls, fun g => lastPainted?_eq_none fun c hc =>
    painting?_of_isRemark (h c (List.mem_reverse.1 hc)) doc g⟩
  answers := ⟨[], answers_tellAll s (remark_request? h), rfl⟩

theorem lastPainted?_asksFor (toggles : Toggles) (request : FoldRequest) (doc : String)
    (g : Group) : lastPainted? (asksFor toggles request) doc g = none := by
  rw [asksFor]
  split <;> rfl

/-- What is painted after a visit is what the visit paints, or else what was painted before. -/
theorem lastPainted?_visit (h : Host.snapshot? s.host doc = some snapshot) (toggles : Toggles)
    (doc' : String) (g : Group) :
    lastPainted? (s.visit doc toggles).host.calls doc' g =
      lastPainted? (((s.paintsFor toggles (s.nextRequest doc) snapshot).map (·.call doc)).reverse ++
        s.host.calls) doc' g := by
  rw [calls_visit h, lastPainted?_append, lastPainted?_append, lastPainted?_asksFor,
    Option.none_or, ← lastPainted?_append]

/-- With its folds at hand, a pass paints every group. -/
theorem groups_paintsFor {s : Session σ} {toggles : Toggles} {request : FoldRequest}
    {folds : List LineRange} (h : s.foldsFor toggles request = some folds) (snapshot : Snapshot) :
    (s.paintsFor toggles request snapshot).map Edit.group = Feature.all.flatMap Feature.groups := by
  rw [paintsFor, h]
  exact Feature.groups_paints _ _

/-- A visit leaves every other document. -/
theorem leaves_visit (s : Session (Recorded σ)) {doc doc' : String} (h : doc' ≠ doc)
    (toggles : Toggles) : Leaves doc' s (s.visit doc toggles) := by
  cases hs : Host.snapshot? s.host doc with
  | none =>
    rw [visit_of_none hs]
    exact ⟨(Store.get?_change ..).trans (if_neg h), rfl, ⟨[], rfl, fun _ => rfl⟩, ⟨[], rfl, rfl⟩⟩
  | some snapshot =>
    refine ⟨?_, s.settings_visit doc toggles, ?_, ⟨_, answers_visit hs toggles, ?_⟩⟩
    · rw [visit_eq hs, tellAll_store, onStore, Store.get?_change, if_neg h]
    · refine ⟨_, (calls_visit hs toggles).trans (List.append_assoc ..).symm, fun g => ?_⟩
      rw [lastPainted?_append, lastPainted?_calls_of_ne h, lastPainted?_asksFor]
      rfl
    · rw [← head?_answersFor, answersFor_answersTo, if_neg h]
      rfl

/-! ## The picture after a visit -/

/-- A live document is shown, and the record has grown. -/
structure Shows (doc : String) (snapshot : Snapshot) (before : Recorded σ)
    (s : Session (Recorded σ)) : Prop where
  live : s.isLive doc = true
  snapshot : Host.snapshot? s.host doc = some snapshot
  calls : before.calls <:+ s.host.calls
  answers : before.answers <:+ s.host.answers

/-- The document shows its picture, if the last request for its folds was answered at once. -/
def Pictured (doc : String) (snapshot : Snapshot) (before : Recorded σ)
    (s : Session (Recorded σ)) : Prop :=
  ∀ folds, (∀ request answer,
      lastAnswer? (s.host.answersSince before) doc = some (request, answer) →
        answer.folds? = some folds) →
    ∀ g ∈ Feature.all.flatMap Feature.groups, lastPainted? (s.host.callsSince before) doc g =
      some (picture snapshot (s.store.togglesOf doc) s.settings folds g)

theorem Leaves.pictured (l : Leaves doc s s') (hs : Shows doc snapshot before s)
    (h : Pictured doc snapshot before s) : Pictured doc snapshot before s' := by
  obtain ⟨calls, hc, unpainted⟩ := l.calls
  obtain ⟨answers, ha, unasked⟩ := l.answers
  intro folds answered g hg
  rw [Recorded.answersSince_of_append ha hs.answers, lastAnswer?_append, unasked,
    Option.none_or] at answered
  rw [Recorded.callsSince_of_append hc hs.calls, lastPainted?_append, unpainted, Option.none_or,
    h folds answered g hg, Store.togglesOf, Store.togglesOf, Store.stateOf, Store.stateOf, l.state,
    l.settings]

theorem Shows.tellAll (steady : Host.Steady σ) (h : Shows doc snapshot before s)
    {calls : List HostCall} (still : ∀ c ∈ calls, c.movesCursor = false) :
    Shows doc snapshot before (s.tellAll calls) where
  live := by
    show (s.isTemplate doc && Host.isOpen (calls.foldl Host.perform s.host) doc) = true
    rw [steady.recorded.isOpen_foldl]
    exact h.live
  snapshot := (steady.recorded.snapshot?_foldl s.host still doc).trans h.snapshot
  calls := h.calls.trans ⟨_, (calls_tellAll s calls).symm⟩
  answers := h.answers.trans (suffix_answers_tellAll s calls)

theorem Shows.visit (steady : Host.Steady σ) (h : Shows doc snapshot before s) (doc' : String)
    (toggles : Toggles) : Shows doc snapshot before (s.visit doc' toggles) := by
  obtain ⟨f, calls, e, still, -⟩ := s.visit_cases doc' toggles
  rw [e]
  exact (Shows.mk h.live h.snapshot h.calls h.answers : Shows doc snapshot before
    (s.onStore (·.change doc' f))).tellAll steady fun c hc => (still c hc).1

/-- A visit paints the picture of a document that is shown. -/
theorem Shows.pictured_visit (h : Shows doc snapshot before s) (toggles : Toggles) :
    Pictured doc snapshot before (s.visit doc toggles) := by
  intro folds answered g hg
  rw [Recorded.answersSince_of_append (answers_visit h.snapshot toggles) h.answers,
    lastAnswer?_append] at answered
  have paints : s.paintsFor toggles (s.nextRequest doc) snapshot = Feature.all.flatMap
      (Feature.paints toggles false (.over snapshot toggles s.settings folds)) := by
    cases hf : toggles.frames with
    | false =>
      have none : s.foldsFor toggles (s.nextRequest doc) = some [] := by simp [foldsFor, hf]
      rw [paintsFor, none]
      exact congrArg (Feature.all.flatMap ·) (funext (Feature.paints_folds_congr hf _ _ _ _))
    | true =>
      have got : s.foldsFor toggles (s.nextRequest doc) = some folds := by
        rw [foldsFor, if_pos hf]
        refine answered (s.nextRequest doc) _ ?_
        rw [answersTo, if_pos hf, lastAnswer?, List.find?_cons_of_pos (by exact decide_eq_true rfl)]
        rfl
      rw [paintsFor, got]
      rfl
  rw [Recorded.callsSince_of_append ((calls_visit h.snapshot toggles).trans
      (List.append_assoc ..).symm) h.calls, lastPainted?_append, lastPainted?_append,
    togglesOf_visit, settings_visit, paints, lastPainted?_picture _ _ _ _ _ hg]
  rfl

/-! ## The picture after an event -/

/-- The event visits the document, if it is live. -/
def visits (s : Session σ) (doc : String) : Event → Prop
  | .cursorMoved d motion => d = doc ∧ motion ≠ .mouse
  | .activated d => d = some doc
  | .toggle d _ => d = doc
  | .polled now => doc ∈ s.debouncer.due now
  | .configured key => Settings.affectedBy key = true ∧ doc ∈ s.shown
  | _ => False

theorem Shows.refl (live : s.isLive doc = true)
    (hs : Host.snapshot? s.host doc = some snapshot) : Shows doc snapshot s.host s :=
  ⟨live, hs, List.suffix_rfl, List.suffix_rfl⟩

/-- What waits to go quiet, the settings, the store and the active document do not count. -/
theorem Shows.adjust (h : Shows doc snapshot before s) (settings : Settings) (store : Store)
    (debouncer : Debouncer) (active : Option String) :
    Shows doc snapshot before { s with settings, store, debouncer, active } :=
  ⟨h.live, h.snapshot, h.calls, h.answers⟩

/-- The document was visited while it showed the snapshot, and was left since. -/
structure Visited (doc : String) (snapshot : Snapshot) (before : Recorded σ)
    (s' : Session (Recorded σ)) : Prop where
  shows : Shows doc snapshot before s'
  visit : ∃ s toggles, Shows doc snapshot before s ∧ Leaves doc (s.visit doc toggles) s'

/-- What was visited shows its picture. -/
theorem Visited.pictured (steady : Host.Steady σ) (h : Visited doc snapshot before s) :
    Pictured doc snapshot before s := by
  obtain ⟨s₁, toggles, shows, left⟩ := h.visit
  exact left.pictured (shows.visit steady doc toggles) (shows.pictured_visit toggles)

theorem Shows.visited_visit (steady : Host.Steady σ) (h : Shows doc snapshot before s)
    (toggles : Toggles) : Visited doc snapshot before (s.visit doc toggles) :=
  ⟨h.visit steady doc toggles, s, toggles, h, .refl⟩

/-- It makes no difference whether another document is visited later, or the same one again. -/
theorem Visited.visit_again (steady : Host.Steady σ) (h : Visited doc snapshot before s)
    (doc' : String) (toggles : Toggles) : Visited doc snapshot before (s.visit doc' toggles) := by
  by_cases same : doc = doc'
  · subst same
    exact h.shows.visited_visit steady toggles
  · obtain ⟨s₁, toggles₁, shows, left⟩ := h.visit
    exact ⟨h.shows.visit steady doc' toggles, s₁, toggles₁, shows,
      left.trans (leaves_visit s same toggles)⟩

/-- If each document of a list is visited or left as it is, one of them was visited in the end. -/
theorem Shows.visited_foldl {f : Session (Recorded σ) → String → Session (Recorded σ)}
    (steady : Host.Steady σ)
    (cases : ∀ s d, f s d = s ∨ ∃ toggles, f s d = s.visit d toggles)
    (visits : ∀ s, Shows doc snapshot before s → ∃ toggles, f s doc = s.visit doc toggles)
    {docs : List String} (hd : doc ∈ docs) (h : Shows doc snapshot before s) :
    Visited doc snapshot before (docs.foldl f s) := by
  have shown (docs : List String) : ∀ s, Shows doc snapshot before s →
      Shows doc snapshot before (docs.foldl f s) := by
    induction docs with
    | nil => exact fun _ h => h
    | cons d docs ih =>
      intro s h
      refine ih _ ?_
      obtain e | ⟨toggles, e⟩ := cases s d <;> rw [e]
      · exact h
      · exact h.visit steady d toggles
  have visited (docs : List String) : ∀ s, Visited doc snapshot before s →
      Visited doc snapshot before (docs.foldl f s) := by
    induction docs with
    | nil => exact fun _ h => h
    | cons d docs ih =>
      intro s h
      refine ih _ ?_
      obtain e | ⟨toggles, e⟩ := cases s d <;> rw [e]
      · exact h
      · exact h.visit_again steady d toggles
  -- the document is shown until its turn comes, and was visited from then on
  obtain ⟨earlier, later, rfl⟩ := List.append_of_mem hd
  rw [List.foldl_append, List.foldl_cons]
  have h' := shown earlier s h
  obtain ⟨toggles, e⟩ := visits _ h'
  exact visited later _ (e ▸ h'.visited_visit steady toggles)

theorem Shows.visited_cursorMoved (steady : Host.Steady σ) (h : Shows doc snapshot before s)
    {motion : Motion} (hm : motion ≠ .mouse) :
    Visited doc snapshot before (s.cursorMoved doc motion) := by
  have none : s.clicks doc motion = [] := if_neg hm
  rw [cursorMoved_eq h.live, none]
  exact (h.adjust s.settings s.store (s.debouncer.cancel doc) s.active).visited_visit steady _

theorem Shows.visited_activated (steady : Host.Steady σ) (h : Shows doc snapshot before s) :
    Visited doc snapshot before (s.activated (some doc)) := by
  obtain ⟨store, debouncer, hl⟩ := s.leave_cases (some doc)
  obtain ⟨template, isOpen⟩ := Bool.and_eq_true_iff.1 h.live
  have entered : s.activated (some doc) =
      enterTemplate { s with store, debouncer, active := some doc } doc := by
    show (if !isTemplate { s.leave (some doc) with active := some doc } doc then _ else
      if Host.isOpen { s.leave (some doc) with active := some doc }.host doc then _ else _) = _
    rw [hl, if_neg (by simp only [isTemplate] at template ⊢; simp [template]), if_pos isOpen]
  have left := h.adjust s.settings store debouncer (some doc)
  rw [entered, enterTemplate_eq]
  exact (left.tellAll steady fun c hc => (flags_remarks _ c hc).2).visited_visit steady _

theorem Shows.visited_toggle (steady : Host.Steady σ) (h : Shows doc snapshot before s)
    (switch : Switch) : Visited doc snapshot before (s.toggle doc switch).2 := by
  rw [toggle_eq h.live]
  have told : Shows doc snapshot before (s.tellAll (s.flipped doc switch)) :=
    h.tellAll steady fun c hc => (s.flipped_remarks doc switch c hc).2
  have wraps := s.wraps_remarks doc switch
  -- after the visit, the host is told at most to switch the soft wrap
  have left (s' : Session (Recorded σ)) : Leaves doc s' (s'.tellAll (s.wraps doc switch)) :=
    leaves_tellAll s' (fun c hc => (wraps c hc).1) doc
  exact ⟨(told.visit steady doc _).tellAll steady fun c hc => (wraps c hc).2.1, _, _, told, left _⟩

theorem Shows.visited_polled (steady : Host.Steady σ) (h : Shows doc snapshot before s) {now : Nat}
    (due : doc ∈ s.debouncer.due now) : Visited doc snapshot before (s.polled now) := by
  refine Shows.visited_foldl steady (fun s d => ?_) (fun s h => ?_) due
    (h.adjust s.settings s.store (s.debouncer.release now) s.active)
  · rw [quieted_eq]
    split
    · exact .inr ⟨_, rfl⟩
    · exact .inl rfl
  · rw [quieted_eq, if_pos (isOpen_of_isLive h.live)]
    exact ⟨_, rfl⟩

theorem Shows.visited_configured (steady : Host.Steady σ) (h : Shows doc snapshot before s)
    {key : String} (affected : Settings.affectedBy key = true) (shown : doc ∈ s.shown) :
    Visited doc snapshot before (s.configured key) := by
  rw [configured, if_pos affected]
  refine Shows.visited_foldl steady (fun s d => ?_) (fun s h => ?_) shown
    (h.adjust _ s.store _ s.active)
  · rw [refresh_eq]
    split
    · exact .inr ⟨_, rfl⟩
    · exact .inl rfl
  · rw [refresh_eq, if_pos h.live]
    exact ⟨_, rfl⟩

/-- After an event that visits a document, the document was visited as it is shown. -/
theorem Shows.visited_handle (steady : Host.Steady σ) (h : Shows doc snapshot before s) {e : Event}
    (visited : s.visits doc e) : Visited doc snapshot before (s.handle e) := by
  cases e with
  | cursorMoved d motion =>
    obtain ⟨rfl, hm⟩ := visited
    exact h.visited_cursorMoved steady hm
  | activated d =>
    obtain rfl : d = some doc := visited
    exact h.visited_activated steady
  | toggle d switch =>
    obtain rfl : d = doc := visited
    exact h.visited_toggle steady switch
  | polled now => exact h.visited_polled steady visited
  | configured key => exact h.visited_configured steady visited.1 visited.2
  | _ => exact visited.elim

/-- After an event that visits a document, every group of the document shows its picture: the event
painted it, and what it painted hangs on the text, the cursor up to the end of the text, the
selection, the toggles, the settings and the folds alone. -/
theorem handle_pictures (steady : Host.Steady σ) {s : Session (Recorded σ)} {doc : String}
    {e : Event} {text : String} {cursor : Nat} {folds : List LineRange}
    (live : s.isLive doc = true) (ht : Host.text? s.host doc = some text)
    (hc : Host.cursor? s.host doc = some cursor) (visited : s.visits doc e)
    (answered : ∀ request answer,
      lastAnswer? ((s.handle e).host.answersSince s.host) doc = some (request, answer) →
        answer.folds? = some folds) :
    ∀ g ∈ Feature.all.flatMap Feature.groups,
      lastPainted? ((s.handle e).host.callsSince s.host) doc g =
        some (picture (.ofCursor text cursor (Host.hasSelection s.host doc))
          ((s.handle e).store.togglesOf doc) (s.handle e).settings folds g) := by
  have hs : Host.snapshot? s.host doc =
      some (.ofCursor text cursor (Host.hasSelection s.host doc)) := by
    rw [Host.snapshot?, ht, hc]
    rfl
  exact ((Shows.refl live hs).visited_handle steady visited).pictured steady folds answered

/-- Two templates that are visible, one with a frame, whose folds are known at once. -/
def framedWorkspace : Workspace :=
  { Workspace.ofDocuments ((KeyMap.empty.insert "a.erb"
      ⟨some "<turbo-frame id=\"a\">\n</turbo-frame>\n", some 30, false⟩).insert "b.erb"
      ⟨some "", some 0, false⟩) false with
    answer := .ready [⟨0, 1⟩], visible := ["a.erb", "b.erb"] }

/-- When the settings change, the template with the frame is painted anew, though the other one is
painted after it. -/
theorem picture_of_framed_template :
    let s := (fresh framedWorkspace .default).run [.event (.activated (some "a.erb"))]
    let s' := s.handle (.configured "erbalist")
    s.visits "a.erb" (.configured "erbalist") ∧
      lastAnswer? (s'.host.answersSince s.host) "a.erb" =
        some (⟨"a.erb", 2⟩, .ready [⟨0, 1⟩]) ∧
      ∀ g ∈ Feature.all.flatMap Feature.groups,
        lastPainted? (s'.host.callsSince s.host) "a.erb" g =
          some (picture (.ofCursor "<turbo-frame id=\"a\">\n</turbo-frame>\n" 30 false)
            (s'.store.togglesOf "a.erb") s'.settings [⟨0, 1⟩] g) := by
  intro s s'
  obtain ⟨live, text, cursor, unselected, affected, shown, answered⟩ :
      s.isLive "a.erb" = true ∧
      Host.text? s.host "a.erb" = some "<turbo-frame id=\"a\">\n</turbo-frame>\n" ∧
      Host.cursor? s.host "a.erb" = some 30 ∧ Host.hasSelection s.host "a.erb" = false ∧
      Settings.affectedBy "erbalist" = true ∧ "a.erb" ∈ s.shown ∧
      lastAnswer? (s'.host.answersSince s.host) "a.erb" =
        some (⟨"a.erb", 2⟩, .ready [⟨0, 1⟩]) := by decide +kernel
  refine ⟨⟨affected, shown⟩, answered, ?_⟩
  rw [← unselected]
  refine handle_pictures Workspace.steady live text cursor ⟨affected, shown⟩
    fun request answer h => ?_
  obtain ⟨rfl, rfl⟩ := Prod.mk.inj (Option.some.inj (answered.symm.trans h))
  rfl

end Session

end TemplatePaint
