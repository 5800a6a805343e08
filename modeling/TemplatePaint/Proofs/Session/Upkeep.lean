import TemplatePaint.Proofs.Session.Moves
import TemplatePaint.Proofs.Session.Record

/-!
# Upkeep

Most of what a session does leaves the toggles of its documents as they are. An
event has an onset, in which it may flip a switch, publish flags, store
toggles, read the settings, or take another document to be active
(`onset`); the rest of it is upkeep (`handle_upkeep`). Upkeep paints, asks for
folds, starts new generations, and tracks a template with the toggles that are
stored for it.

So what is to hold of toggles, flags and settings after every run is shown of
the onset of each event, and is kept by upkeep. First of all, what is scheduled
is tracked, and what is tracked is a template (`run_coherent`).
-/

namespace TemplatePaint

/-- The call neither publishes a flag nor stores toggles. -/
def HostCall.isQuiet : HostCall → Bool
  | .setFlag .. | .storeToggles .. => false
  | _ => true

namespace Session

variable {σ : Type} [Host σ]

/-- The toggles of a document, if it is tracked. -/
def toggles? (s : Session σ) (doc : String) : Option Toggles :=
  (s.store.get? doc).map (·.toggles)

/-- One piece of upkeep. -/
inductive Upkeep : Session σ → Session σ → Prop
  /-- The host is told something, but no flag and no toggles. -/
  | tell (s : Session σ) (calls : List HostCall) (h : ∀ c ∈ calls, c.isQuiet = true) :
    Upkeep s (s.tellAll calls)
  /-- The documents change, but not which are tracked nor their toggles; if something new is
  scheduled, it is tracked. -/
  | adjust (s : Session σ) (store : Store) (debouncer : Debouncer)
    (toggles : ∀ doc, (store.get? doc).map (·.toggles) = s.toggles? doc)
    (pending : ∀ doc, debouncer.isPending doc = true →
      s.debouncer.isPending doc = true ∨ s.store.contains doc = true) :
    Upkeep s { s with store, debouncer }
  /-- A template starts a new generation, with the stored toggles if it is new. -/
  | renew (s : Session σ) {doc : String} (h : s.isTemplate doc = true) :
    Upkeep s (s.renew doc (s.togglesOnTrack doc))

/-- Some upkeep. -/
abbrev Upkeeps : Session σ → Session σ → Prop := Relation.ReflTransGen Upkeep

/-! ## Toggles of tracked documents -/

omit [Host σ] in
theorem contains_eq_isSome_toggles? (s : Session σ) (doc : String) :
    s.store.contains doc = (s.toggles? doc).isSome := by
  rw [toggles?, Option.isSome_map]
  rfl

omit [Host σ] in
theorem togglesOf_of_toggles? {s : Session σ} {doc : String} {t : Toggles}
    (h : s.toggles? doc = some t) : s.store.togglesOf doc = t := by
  obtain ⟨d, hd, rfl⟩ := Option.map_eq_some_iff.1 h
  rw [Store.togglesOf, Store.stateOf_of_get? hd]

omit [Host σ] in
theorem toggles?_of_contains {s : Session σ} {doc : String} (h : s.store.contains doc = true) :
    s.toggles? doc = some (s.store.togglesOf doc) := by
  rw [contains_eq_isSome_toggles?] at h
  obtain ⟨t, ht⟩ := Option.isSome_iff_exists.1 h
  rw [ht, togglesOf_of_toggles? ht]

/-- A tracked document keeps its toggles when it is to be tracked. -/
theorem togglesOnTrack_of_toggles? {s : Session σ} {doc : String} {t : Toggles}
    (h : s.toggles? doc = some t) : s.togglesOnTrack doc = t := by
  obtain ⟨d, hd, rfl⟩ := Option.map_eq_some_iff.1 h
  rw [togglesOnTrack, hd]

omit [Host σ] in
theorem toggles?_change (s : Session σ) (doc doc' : String) (f : DocumentState → DocumentState) :
    (s.onStore (·.change doc f)).toggles? doc' =
      if doc' = doc then some (f (s.store.stateOf doc)).toggles else s.toggles? doc' := by
  rw [toggles?, onStore, Store.get?_change]
  split <;> rfl

omit [Host σ] in
theorem toggles?_renew (s : Session σ) (doc doc' : String) (toggles : Toggles) :
    (s.renew doc toggles).toggles? doc' = if doc' = doc then some toggles else s.toggles? doc' :=
  s.toggles?_change doc doc' _

omit [Host σ] in
/-- A change of a tracked document that keeps its toggles keeps those of all documents. -/
theorem toggles?_change_of_contains {s : Session σ} {doc : String}
    {f : DocumentState → DocumentState} (h : s.store.contains doc = true)
    (hf : (f (s.store.stateOf doc)).toggles = s.store.togglesOf doc) (doc' : String) :
    (s.onStore (·.change doc f)).toggles? doc' = s.toggles? doc' := by
  rw [toggles?_change, hf]
  split
  · rename_i same
    rw [same, toggles?_of_contains h]
  · rfl

/-! ## What upkeep keeps -/

section Kept
variable {s s' : Session σ}

theorem Upkeep.language (u : Upkeep s s') : s'.language = s.language := by
  cases u <;> rfl

theorem Upkeep.active (u : Upkeep s s') : s'.active = s.active := by
  cases u <;> rfl

theorem Upkeep.settings (u : Upkeep s s') : s'.settings = s.settings := by
  cases u <;> rfl

/-- Upkeep leaves the toggles of tracked documents. -/
theorem Upkeep.toggles? (u : Upkeep s s') {doc : String} {t : Toggles}
    (h : s.toggles? doc = some t) : s'.toggles? doc = some t := by
  cases u with
  | tell calls => exact h
  | adjust store debouncer toggles => exact (toggles doc).trans h
  | renew =>
    rw [toggles?_renew]
    split
    · rename_i same
      subst same
      rw [togglesOnTrack_of_toggles? h]
    · exact h

/-- What is kept by every piece of upkeep holds after some upkeep. -/
theorem Upkeeps.keeps {P : Session σ → Prop} (keeps : ∀ {s s'}, Upkeep s s' → P s → P s')
    (u : Upkeeps s s') (h : P s) : P s' := by
  induction u with
  | refl => exact h
  | tail _ u ih => exact keeps u ih

/-- What every piece of upkeep leaves as it is stays after some upkeep. -/
theorem Upkeeps.keeps_eq {α : Type} {f : Session σ → α}
    (keeps : ∀ {s s'}, Upkeep s s' → f s' = f s) (u : Upkeeps s s') : f s' = f s :=
  u.keeps (P := fun s' => f s' = f s) (fun u h => (keeps u).trans h) rfl

theorem Upkeeps.language (u : Upkeeps s s') : s'.language = s.language :=
  u.keeps_eq Upkeep.language

theorem Upkeeps.active (u : Upkeeps s s') : s'.active = s.active :=
  u.keeps_eq Upkeep.active

theorem Upkeeps.settings (u : Upkeeps s s') : s'.settings = s.settings :=
  u.keeps_eq Upkeep.settings

theorem Upkeeps.toggles? (u : Upkeeps s s') {doc : String} {t : Toggles}
    (h : s.toggles? doc = some t) : s'.toggles? doc = some t :=
  u.keeps (P := (·.toggles? doc = some t)) (fun u h => u.toggles? h) h

theorem Upkeeps.isTemplate (u : Upkeeps s s') (doc : String) :
    s'.isTemplate doc = s.isTemplate doc := by
  rw [Session.isTemplate, u.language]
  rfl

end Kept

/-! ## Operations as upkeep -/

theorem storesToggles_of_isQuiet {c : HostCall} (h : c.isQuiet = true) :
    c.storesToggles = false := by
  cases c with
  | storeToggles => cases h
  | _ => rfl

theorem storesToggles_setFlag (value : Switch → Bool) :
    ∀ c ∈ Switch.all.map fun switch => HostCall.setFlag switch.flag (value switch),
      c.storesToggles = false := by
  intro c hc
  obtain ⟨switch, -, rfl⟩ := List.mem_map.1 hc
  rfl

theorem call_isQuiet (doc : String) (edits : List Edit) :
    ∀ c ∈ edits.map (·.call doc), c.isQuiet = true := by
  intro c hc
  obtain ⟨e, -, rfl⟩ := List.mem_map.1 hc
  rfl

theorem asksFor_isQuiet (toggles : Toggles) (request : FoldRequest) :
    ∀ c ∈ asksFor toggles request, c.isQuiet = true := by
  rw [asksFor]
  split <;> simp [HostCall.isQuiet]

theorem clicks_isQuiet (s : Session σ) (doc : String) (motion : Motion) :
    ∀ c ∈ s.clicks doc motion, c.isQuiet = true := by
  rw [clicks]
  split <;> simp [HostCall.isQuiet]

omit [Host σ] in
theorem wraps_isQuiet (s : Session σ) (doc : String) (switch : Switch) :
    ∀ c ∈ s.wraps doc switch, c.isQuiet = true := by
  rw [wraps]
  split <;> simp [HostCall.isQuiet]

theorem foldsDrawings_isQuiet (s : Session σ) (doc : String) :
    ∀ c ∈ s.foldsDrawings doc, c.isQuiet = true := by
  rw [foldsDrawings]
  repeat' split
  all_goals simp [HostCall.isQuiet]

theorem unfoldsDrawings_isQuiet (s : Session σ) (doc : String) :
    ∀ c ∈ s.unfoldsDrawings doc, c.isQuiet = true := by
  rw [unfoldsDrawings]
  split <;> simp [HostCall.isQuiet]

/-- A change of the documents alone that keeps their toggles is upkeep. -/
theorem upkeep_onStore (s : Session σ) (f : Store → Store)
    (toggles : ∀ doc, (s.onStore f).toggles? doc = s.toggles? doc) : Upkeep s (s.onStore f) :=
  .adjust s (f s.store) s.debouncer toggles fun _ => .inl

/-- A change of what is scheduled is upkeep, if what is new is tracked. -/
theorem upkeep_onDebouncer (s : Session σ) (f : Debouncer → Debouncer)
    (pending : ∀ doc, (f s.debouncer).isPending doc = true →
      s.debouncer.isPending doc = true ∨ s.store.contains doc = true) :
    Upkeep s (s.onDebouncer f) :=
  .adjust s s.store (f s.debouncer) (fun _ => rfl) pending

theorem upkeep_cancel (s : Session σ) (doc : String) :
    Upkeep s (s.onDebouncer (·.cancel doc)) :=
  s.upkeep_onDebouncer _ fun _ h => .inl (Debouncer.isPending_cancel h).2

/-- A pass over a tracked document is upkeep. -/
theorem upkeeps_repaint {s : Session σ} {doc : String} (h : s.store.contains doc = true) :
    Upkeeps s (s.repaint doc) := by
  cases hs : Host.snapshot? s.host doc with
  | none => rw [repaint_of_none hs]
  | some snapshot =>
    rw [repaint_eq hs rfl rfl]
    refine .head (s.upkeep_onStore _ (toggles?_change_of_contains h rfl)) (.single (.tell _ _ ?_))
    exact List.forall_mem_append.2 ⟨asksFor_isQuiet _ _, call_isQuiet _ _⟩

omit [Host σ] in
theorem contains_renew (s : Session σ) (doc : String) (toggles : Toggles) :
    (s.renew doc toggles).store.contains doc = true := by
  rw [contains_eq_isSome_toggles?, toggles?_renew, if_pos rfl]
  rfl

theorem isTemplate_of_isLive {s : Session σ} {doc : String} (h : s.isLive doc = true) :
    s.isTemplate doc = true :=
  (Bool.and_eq_true _ _ ▸ h : _ ∧ _).1

/-- A visit of a template with the toggles that it has is upkeep. -/
theorem upkeeps_visit {s : Session σ} {doc : String} (h : s.isTemplate doc = true) :
    Upkeeps s (s.visit doc (s.togglesOnTrack doc)) :=
  .head (.renew s h) (upkeeps_repaint (contains_renew ..))

/-- Leaving a document is upkeep. -/
theorem upkeeps_leave (s : Session σ) (next : Option String) : Upkeeps s (s.leave next) := by
  rw [leave]
  split
  · rename_i previous _
    split
    · rename_i left
      have advanced : (s.advance previous).store.contains previous = true :=
        contains_renew s previous _
      refine .head (s.upkeep_onStore _ (toggles?_change_of_contains left.2 rfl))
        (.head (upkeep_onStore _ _ ?_) (.single (upkeep_cancel _ previous)))
      intro doc
      show (((s.advance previous).onStore _).toggles? doc) = (s.advance previous).toggles? doc
      rw [onStore, Store.dropRequest_eq_change advanced]
      exact toggles?_change_of_contains advanced rfl doc
    · exact .refl
  · exact .refl

/-- Painting a template that has gone quiet is upkeep. -/
theorem upkeeps_quieted {s : Session σ} {doc : String} (tracked : s.store.contains doc = true)
    (h : s.isTemplate doc = true) : Upkeeps s (s.quieted doc) := by
  rw [quieted_eq, ← togglesOnTrack_of_toggles? (toggles?_of_contains tracked)]
  split
  · exact upkeeps_visit h
  · exact .refl

theorem upkeeps_foldl_quieted {docs : List String} {s : Session σ}
    (h : ∀ doc ∈ docs, s.store.contains doc = true ∧ s.isTemplate doc = true) :
    Upkeeps s (docs.foldl quieted s) := by
  induction docs generalizing s with
  | nil => exact .refl
  | cons doc docs ih =>
    obtain ⟨⟨tracked, template⟩, h⟩ := List.forall_mem_cons.1 h
    have first := upkeeps_quieted tracked template
    refine first.trans (ih fun d hd => ?_)
    obtain ⟨tracked, template⟩ := h d hd
    refine ⟨?_, (first.isTemplate d).trans template⟩
    rw [contains_eq_isSome_toggles?, first.toggles? (toggles?_of_contains tracked)]
    rfl

theorem upkeeps_refresh (s : Session σ) (doc : String) : Upkeeps s (s.refresh doc) := by
  rw [refresh_eq]
  split
  · rename_i live
    exact upkeeps_visit (isTemplate_of_isLive live)
  · exact .refl

theorem upkeeps_foldl_refresh (docs : List String) (s : Session σ) :
    Upkeeps s (docs.foldl refresh s) := by
  induction docs generalizing s with
  | nil => exact .refl
  | cons doc docs ih => exact (s.upkeeps_refresh doc).trans (ih _)

/-- Taking an answer is upkeep. -/
theorem upkeeps_delivered (s : Session σ) (request : FoldRequest)
    (folds : Except String (List LineRange)) : Upkeeps s (s.delivered request folds) := by
  obtain ⟨edits, e⟩ := s.delivered_cases request folds
  rw [e]
  refine .head (s.upkeep_onStore _ fun doc => ?_) (.single (.tell _ _ (call_isQuiet _ _)))
  rw [toggles?, onStore, Store.get?_settle]
  split
  · rw [Option.map_map]
    rfl
  · rfl

/-! ## Events -/

/-- What the active document is told of: a template that is open starts a new generation and its
flags are published; another document that is no template is cleared and all flags are off. -/
def welcome (s : Session σ) : Option String → Session σ
  | none => s
  | some doc =>
    if !s.isTemplate doc then s.enterOther doc
    else if Host.isOpen s.host doc then
      (s.renew doc (s.togglesOnTrack doc)).tellAll (flags (s.togglesOnTrack doc))
    else s

/-- The part of an event that is not upkeep. -/
def onset (s : Session σ) : Event → Session σ
  | .activated doc => { s.leave doc with active := doc }.welcome doc
  | .configured key =>
    if Settings.affectedBy key then
      let settings := Settings.load (Host.settings s.host)
      { s with settings, debouncer := s.debouncer.setQuiet settings.editQuiet }
    else s
  | .closed doc => s.closed doc
  | .toggle doc switch =>
    if s.isLive doc then
      (s.renew doc ((s.togglesOnTrack doc).flip switch)).tellAll (s.flipped doc switch)
    else s
  | _ => s

/-- What the active document is told of is upkeep, and then calls that store no toggles. -/
theorem welcome_upkeeps (s : Session σ) (doc : Option String) :
    ∃ s' calls, Upkeeps s s' ∧ (∀ c ∈ calls, c.storesToggles = false) ∧
      s.welcome doc = s'.tellAll calls := by
  cases doc with
  | none => exact ⟨s, [], .refl, by simp, rfl⟩
  | some doc =>
    dsimp only [welcome]
    split
    · refine ⟨s, _, .refl, ?_, s.enterOther_eq doc⟩
      exact List.forall_mem_append.2 ⟨fun c hc => storesToggles_of_isQuiet (call_isQuiet _ _ c hc),
        storesToggles_setFlag _⟩
    · rename_i template
      split
      · exact ⟨_, _, .single (.renew s (by simpa using template)), storesToggles_setFlag _, rfl⟩
      · exact ⟨s, [], .refl, by simp, rfl⟩

/-- What is scheduled is tracked, and what is tracked is a template. -/
structure Coherent (s : Session σ) : Prop where
  scheduled : ∀ doc, s.debouncer.isPending doc = true → s.store.contains doc = true
  templates : ∀ doc, s.store.contains doc = true → s.isTemplate doc = true

variable {s s' : Session σ}

theorem upkeeps_activated (s : Session σ) (doc : Option String) :
    Upkeeps (s.onset (.activated doc)) (s.activated doc) := by
  rw [onset, activated.eq_def]
  generalize { s.leave doc with active := doc } = entered
  cases doc with
  | none => exact .refl
  | some doc =>
    dsimp only [welcome]
    split
    · exact .refl
    · split
      · rw [enterTemplate_eq]
        exact upkeeps_repaint (contains_renew entered doc _)
      · exact .refl

theorem upkeeps_toggle (s : Session σ) (doc : String) (switch : Switch) :
    Upkeeps (s.onset (.toggle doc switch)) (s.toggle doc switch).2 := by
  cases live : s.isLive doc with
  | false =>
    rw [onset, toggle, live]
    exact .refl
  | true =>
    rw [onset, toggle_eq live, if_pos live]
    generalize (s.togglesOnTrack doc).flip switch = toggles
    have painted : Upkeeps ((s.renew doc toggles).tellAll (s.flipped doc switch))
        ((s.tellAll (s.flipped doc switch)).visit doc toggles) :=
      upkeeps_repaint (contains_renew s doc toggles)
    exact painted.tail (.tell _ _ (s.wraps_isQuiet doc switch))

theorem upkeeps_cursorMoved (s : Session σ) (doc : String) (motion : Motion) :
    Upkeeps s (s.cursorMoved doc motion) := by
  cases live : s.isLive doc with
  | false =>
    rw [cursorMoved, live]
    exact .refl
  | true =>
    rw [cursorMoved_eq live]
    refine .head (s.upkeep_cancel doc) (.head (.renew _ (isTemplate_of_isLive live)) ?_)
    refine .head (.tell _ _ (s.clicks_isQuiet doc motion)) ?_
    exact upkeeps_repaint (contains_renew (s.onDebouncer (·.cancel doc)) doc _)

theorem upkeeps_edited (s : Session σ) (doc : String) (now : Nat) :
    Upkeeps s (s.edited doc now) := by
  rw [edited]
  split
  · rename_i live
    rw [touch_eq]
    refine .head (.renew s (isTemplate_of_isLive live))
      (.single (upkeep_onDebouncer _ _ fun d h => ?_))
    rcases Debouncer.isPending_schedule h with rfl | h
    · exact .inr (contains_renew s d _)
    · exact .inl h
  · exact .refl

theorem Coherent.upkeeps_polled (h : s.Coherent) (now : Nat) : Upkeeps s (s.polled now) := by
  refine .head (s.upkeep_onDebouncer (·.release now) fun _ h => ?_)
    (upkeeps_foldl_quieted fun doc due => ?_)
  · exact .inl (Debouncer.isPending_release h)
  · have tracked := h.scheduled doc (Debouncer.isPending_of_mem_due due)
    exact ⟨tracked, h.templates doc tracked⟩

/-- After its onset, an event is upkeep. -/
theorem Coherent.handle_upkeep (h : s.Coherent) (e : Event) : Upkeeps (s.onset e) (s.handle e) := by
  cases e with
  | cursorMoved doc motion => exact s.upkeeps_cursorMoved doc motion
  | activated doc => exact s.upkeeps_activated doc
  | edited doc now => exact s.upkeeps_edited doc now
  | polled now => exact h.upkeeps_polled now
  | configured key =>
    show Upkeeps (if _ then _ else s) (s.configured key)
    rw [configured]
    split
    · exact upkeeps_foldl_refresh _ _
    · exact .refl
  | closed doc => exact .refl
  | delivered request folds => exact s.upkeeps_delivered request folds
  | toggle doc switch => exact s.upkeeps_toggle doc switch
  | foldDrawings doc =>
    show Upkeeps s (s.foldDrawings doc).2
    rw [foldDrawings_eq]
    exact .single (.tell _ _ (s.foldsDrawings_isQuiet doc))
  | unfoldDrawings doc =>
    show Upkeeps s (s.unfoldDrawings doc)
    rw [unfoldDrawings_eq]
    exact .single (.tell _ _ (s.unfoldsDrawings_isQuiet doc))

/-! ## What is scheduled is tracked -/

theorem Coherent.tellAll (h : s.Coherent) (calls : List HostCall) : (s.tellAll calls).Coherent :=
  ⟨h.scheduled, h.templates⟩

omit [Host σ] in
theorem Coherent.renew (h : s.Coherent) {doc : String} (template : s.isTemplate doc = true)
    (toggles : Toggles) : (s.renew doc toggles).Coherent := by
  have tracked (doc' : String) : (s.renew doc toggles).store.contains doc' = true ↔
      doc' = doc ∨ s.store.contains doc' = true := by
    rw [contains_eq_isSome_toggles?, toggles?_renew, contains_eq_isSome_toggles?]
    by_cases same : doc' = doc <;> simp [same]
  refine ⟨fun doc' waits => (tracked doc').2 (.inr (h.scheduled doc' waits)), fun doc' inside => ?_⟩
  rcases (tracked doc').1 inside with rfl | inside
  · exact template
  · exact h.templates doc' inside

theorem Upkeep.coherent (u : Upkeep s s') (h : s.Coherent) : s'.Coherent := by
  cases u with
  | tell calls => exact h.tellAll calls
  | adjust store debouncer toggles pending =>
    have same (doc : String) : store.contains doc = s.store.contains doc := by
      rw [s.contains_eq_isSome_toggles?, ← toggles doc, Option.isSome_map]
      rfl
    refine ⟨fun doc waits => ?_, fun doc tracked => h.templates doc (same doc ▸ tracked)⟩
    show store.contains doc = true
    rw [same]
    exact (pending doc waits).elim (h.scheduled doc) id
  | renew template => exact h.renew template _

theorem Upkeeps.coherent (u : Upkeeps s s') (h : s.Coherent) : s'.Coherent :=
  u.keeps Upkeep.coherent h

theorem Coherent.welcome (h : s.Coherent) (doc : Option String) : (s.welcome doc).Coherent := by
  obtain ⟨s', calls, u, -, e⟩ := s.welcome_upkeeps doc
  rw [e]
  exact (u.coherent h).tellAll calls

omit [Host σ] in
theorem Coherent.closed (h : s.Coherent) (doc : String) : (s.closed doc).Coherent := by
  refine ⟨fun doc' waits => ?_, fun doc' inside => ?_⟩
  · obtain ⟨other, waits⟩ := Debouncer.isPending_cancel waits
    show (s.store.erase doc).contains doc' = true
    rw [KeyMap.contains, KeyMap.get?_erase, if_neg other]
    exact h.scheduled doc' waits
  · change (s.store.erase doc).contains doc' = true at inside
    rw [KeyMap.contains, KeyMap.get?_erase] at inside
    split at inside
    · cases inside
    · exact h.templates doc' inside

theorem Coherent.onset (h : s.Coherent) (e : Event) : (s.onset e).Coherent := by
  cases e with
  | activated doc =>
    have left := (s.upkeeps_leave doc).coherent h
    exact Coherent.welcome (s := { s.leave doc with active := doc })
      ⟨left.scheduled, left.templates⟩ doc
  | configured key =>
    dsimp only [Session.onset]
    split
    · exact ⟨h.scheduled, h.templates⟩
    · exact h
  | closed doc => exact h.closed doc
  | toggle doc switch =>
    dsimp only [Session.onset]
    split
    · rename_i live
      exact (h.renew (isTemplate_of_isLive live) _).tellAll _
    · exact h
  | _ => exact h

theorem Coherent.handle (h : s.Coherent) (e : Event) : (s.handle e).Coherent :=
  (h.handle_upkeep e).coherent (h.onset e)

theorem Coherent.step {s : Session (Recorded σ)} (h : s.Coherent) (a : Step σ) :
    (s.step a).Coherent := by
  cases a with
  | event e => exact h.handle e
  | change f => exact ⟨h.scheduled, h.templates⟩

theorem coherent_fresh (host : σ) (language : Language) : (fresh host language).Coherent :=
  ⟨fun _ (h : false = true) => absurd h Bool.false_ne_true,
    fun _ (h : false = true) => absurd h Bool.false_ne_true⟩

/-- After every run, what is scheduled is tracked, and what is tracked is a template. -/
theorem run_coherent (host : σ) (language : Language) (steps : List (Step σ)) :
    ((fresh host language).run steps).Coherent :=
  run_keeps (P := Coherent) (fun _ a h => h.step a) (coherent_fresh host language) steps

/-! ## The active document and the settings -/

/-- The active document after an event: the one that became active last, until it is closed. -/
def activeAfter (s : Session σ) : Event → Option String
  | .activated next => next
  | .closed doc => if s.active = some doc then none else s.active
  | _ => s.active

/-- The settings after an event: they are read when they have changed. -/
def settingsAfter (s : Session σ) : Event → Settings
  | .configured key =>
    if Settings.affectedBy key then Settings.load (Host.settings s.host) else s.settings
  | _ => s.settings

theorem active_welcome (s : Session σ) (next : Option String) :
    (s.welcome next).active = s.active := by
  obtain ⟨s', calls, u, -, e⟩ := s.welcome_upkeeps next
  rw [e]
  exact u.active

theorem settings_welcome (s : Session σ) (next : Option String) :
    (s.welcome next).settings = s.settings := by
  obtain ⟨s', calls, u, -, e⟩ := s.welcome_upkeeps next
  rw [e]
  exact u.settings

theorem Coherent.active_handle (h : s.Coherent) (e : Event) :
    (s.handle e).active = s.activeAfter e := by
  refine (h.handle_upkeep e).active.trans ?_
  cases e with
  | activated next => exact active_welcome { s.leave next with active := next } next
  | configured key =>
    dsimp only [Session.onset]
    split <;> rfl
  | toggle doc switch =>
    dsimp only [Session.onset]
    split <;> rfl
  | _ => rfl

theorem Coherent.settings_handle (h : s.Coherent) (e : Event) :
    (s.handle e).settings = s.settingsAfter e := by
  refine (h.handle_upkeep e).settings.trans ?_
  cases e with
  | activated next =>
    exact (settings_welcome { s.leave next with active := next } next).trans
      (s.upkeeps_leave next).settings
  | configured key =>
    dsimp only [Session.onset, settingsAfter]
    split <;> rfl
  | toggle doc switch =>
    dsimp only [Session.onset]
    split <;> rfl
  | _ => rfl

/-! ## The language stays -/

theorem language_welcome (s : Session σ) (doc : Option String) :
    (s.welcome doc).language = s.language := by
  obtain ⟨s', calls, u, -, e⟩ := s.welcome_upkeeps doc
  rw [e]
  exact u.language

theorem language_onset (s : Session σ) (e : Event) : (s.onset e).language = s.language := by
  cases e with
  | activated doc => exact (language_welcome _ doc).trans (s.upkeeps_leave doc).language
  | configured key =>
    rw [onset]
    split <;> rfl
  | toggle doc switch =>
    rw [onset]
    split <;> rfl
  | _ => rfl

/-- A session goes on painting the templates of its language. -/
theorem run_isTemplate (host : σ) (language : Language) (steps : List (Step σ)) (doc : String) :
    ((fresh host language).run steps).isTemplate doc = language.claims doc := by
  have kept : ((fresh host language).run steps).language = language :=
    (run_keeps (P := fun s => s.Coherent ∧ s.language = language) (fun s a ⟨h, same⟩ => by
      refine ⟨h.step a, ?_⟩
      cases a with
      | event e => exact (h.handle_upkeep e).language.trans ((s.language_onset e).trans same)
      | change f => exact same) ⟨coherent_fresh host language, rfl⟩ steps).2
  rw [isTemplate, kept]

end Session

end TemplatePaint
