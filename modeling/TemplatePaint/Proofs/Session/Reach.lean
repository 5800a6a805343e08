import TemplatePaint.Host.Workspace
import TemplatePaint.Proofs.Session.Upkeep

/-!
# What an event reaches

An event changes the state of few documents, and tells the host of few
(`Confined`, `handle_confined`): it tells of open templates only, and changes
the state of documents that are tracked or that it happens to. Polls and
delivered answers do not ask whether a document is a template. They need not,
for they change only what is tracked, and what is tracked is a template.

The one other thing that a session does to a document is to clear one that is
no template when it becomes active (`activated_of_other`).

This needs a host whose calls neither open nor close documents: what is open
when an event is taken is open until it is handled.
-/

namespace TemplatePaint

/-- The event publishes flags of the document. -/
def Event.publishes (e : Event) (doc : String) : Prop :=
  e = .activated (some doc) ∨ ∃ switch, e = .toggle doc switch

namespace Session

variable {σ : Type} [Host σ] {s s' s'' : Session σ}

/-! ## Confined changes -/

/-- From one session to the next, only these documents change their state, and the host is told
only such things. -/
structure Confined (reached : String → Prop) (told : HostCall → Prop) (s s' : Session σ) :
    Prop where
  language : s'.language = s.language
  state : ∀ doc, ¬ reached doc → s'.store.get? doc = s.store.get? doc
  calls : ∃ calls : List HostCall, s'.host = calls.foldl Host.perform s.host ∧
    ∀ c ∈ calls, told c

section Confined
variable {reached : String → Prop} {told : HostCall → Prop}

theorem Confined.refl (s : Session σ) : Confined reached told s s :=
  ⟨rfl, fun _ _ => rfl, [], rfl, fun _ h => absurd h List.not_mem_nil⟩

theorem Confined.trans (c : Confined reached told s s') (c' : Confined reached told s' s'') :
    Confined reached told s s'' := by
  obtain ⟨calls, made, each⟩ := c.calls
  obtain ⟨calls', made', each'⟩ := c'.calls
  refine ⟨c'.language.trans c.language, fun doc h => (c'.state doc h).trans (c.state doc h),
    calls ++ calls', ?_, List.forall_mem_append.2 ⟨each, each'⟩⟩
  rw [made', made, List.foldl_append]

/-- What waits to go quiet, the settings and the active document do not count. -/
theorem confined_adjust (s : Session σ) (settings : Settings) (debouncer : Debouncer)
    (active : Option String) :
    Confined reached told s { s with settings, debouncer, active } :=
  ⟨rfl, fun _ _ => rfl, [], rfl, fun _ h => absurd h List.not_mem_nil⟩

theorem confined_tellAll (s : Session σ) {calls : List HostCall} (h : ∀ c ∈ calls, told c) :
    Confined reached told s (s.tellAll calls) :=
  ⟨rfl, fun _ _ => rfl, calls, rfl, h⟩

theorem confined_onStore (s : Session σ) {f : Store → Store}
    (h : ∀ doc, ¬ reached doc → (f s.store).get? doc = s.store.get? doc) :
    Confined reached told s (s.onStore f) :=
  ⟨rfl, h, [], rfl, fun _ h => absurd h List.not_mem_nil⟩

theorem confined_change (s : Session σ) {doc : String} (h : reached doc)
    (f : DocumentState → DocumentState) :
    Confined reached told s (s.onStore (·.change doc f)) := by
  refine s.confined_onStore fun doc' other => ?_
  have ne : doc' ≠ doc := fun same => other (same ▸ h)
  rw [Store.get?_change, if_neg ne]

theorem confined_visit (s : Session σ) {doc : String} (h : reached doc)
    (named : ∀ c : HostCall, c.document? = some doc → told c) (toggles : Toggles) :
    Confined reached told s (s.visit doc toggles) := by
  obtain ⟨f, calls, e, -, naming⟩ := s.visit_cases doc toggles
  rw [e]
  exact (s.confined_change h f).trans (confined_tellAll _ fun c hc => named c (naming c hc))

/-- What is done to one document after the other is confined if each part is. -/
theorem confined_foldl {f : Session σ → String → Session σ} {docs : List String}
    (part : ∀ s', Confined reached told s s' → ∀ doc ∈ docs, Confined reached told s' (f s' doc))
    (c : Confined reached told s s') : Confined reached told s (docs.foldl f s') := by
  induction docs generalizing s' with
  | nil => exact c
  | cons doc docs ih =>
    have first := c.trans (part s' c doc List.mem_cons_self)
    exact ih (fun s' c doc' mem => part s' c doc' (List.mem_cons_of_mem doc mem)) first

/-- Documents stay open, and stay templates. -/
theorem Confined.isLive (keeps : Host.KeepsOpen σ) (c : Confined reached told s s')
    (doc : String) : s'.isLive doc = s.isLive doc := by
  obtain ⟨calls, made, -⟩ := c.calls
  rw [Session.isLive, Session.isLive, isTemplate, isTemplate, c.language, made, keeps.foldl]

end Confined

/-! ## The reach of an event -/

/-- The documents whose state an event may change. -/
def reaches (s : Session σ) (doc : String) : Event → Prop
  | .cursorMoved d _ | .edited d _ | .toggle d _ => d = doc ∧ s.isLive doc = true
  | .activated next => s.active = some doc ∨ next = some doc
  | .polled _ | .delivered _ _ => s.store.contains doc = true
  | .configured key =>
    Settings.affectedBy key = true ∧ doc ∈ s.shown ∧ s.isLive doc = true
  | .closed d => d = doc
  | .foldDrawings _ | .unfoldDrawings _ => False

/-- What the host may be told in an event: something about an open template, or the flags of
one. -/
def mayTell (s : Session σ) (e : Event) (c : HostCall) : Prop :=
  match c.document? with
  | some doc => s.isLive doc = true
  | none => ∃ doc, s.isLive doc = true ∧ e.publishes doc

theorem mayTell_of_isLive {e : Event} {c : HostCall} {doc : String} (h : c.document? = some doc)
    (live : s.isLive doc = true) : s.mayTell e c := by
  rw [mayTell, h]
  exact live

theorem mayTell_of_publishes {e : Event} {c : HostCall} {doc : String} (h : c.document? = none)
    (live : s.isLive doc = true) (p : e.publishes doc) : s.mayTell e c := by
  rw [mayTell, h]
  exact ⟨doc, live, p⟩

theorem clicks_document? (s : Session σ) (doc : String) (motion : Motion) :
    ∀ c ∈ s.clicks doc motion, c.document? = some doc := by
  rw [clicks]
  split <;> simp [HostCall.document?]

theorem flags_document? (toggles : Toggles) : ∀ c ∈ flags toggles, c.document? = none := by
  simp [flags, HostCall.document?]

theorem flipped_document? (s : Session σ) (doc : String) (switch : Switch) :
    ∀ c ∈ s.flipped doc switch, c.document? = none ∨ c.document? = some doc := by
  rw [flipped]
  split <;> simp [HostCall.document?]

omit [Host σ] in
theorem wraps_document? (s : Session σ) (doc : String) (switch : Switch) :
    ∀ c ∈ s.wraps doc switch, c.document? = some doc := by
  rw [wraps]
  split <;> simp [HostCall.document?]

theorem foldsDrawings_document? (s : Session σ) (doc : String) :
    ∀ c ∈ s.foldsDrawings doc, c.document? = some doc ∧ s.isLive doc = true := by
  rw [foldsDrawings]
  repeat' split
  all_goals simp_all [HostCall.document?]

theorem unfoldsDrawings_document? (s : Session σ) (doc : String) :
    ∀ c ∈ s.unfoldsDrawings doc, c.document? = some doc ∧ s.isLive doc = true := by
  rw [unfoldsDrawings]
  split <;> simp_all [HostCall.document?]

/-! ## Events -/

theorem confined_cursorMoved (s : Session σ) (doc : String) (motion : Motion) :
    Confined (s.reaches · (.cursorMoved doc motion)) (s.mayTell (.cursorMoved doc motion)) s
      (s.cursorMoved doc motion) := by
  cases live : s.isLive doc with
  | false =>
    rw [cursorMoved, live]
    exact .refl s
  | true =>
    rw [cursorMoved_eq live]
    have cancelled : Confined (s.reaches · (.cursorMoved doc motion))
        (s.mayTell (.cursorMoved doc motion)) s (s.onDebouncer (·.cancel doc)) :=
      s.confined_adjust s.settings (s.debouncer.cancel doc) s.active
    refine cancelled.trans ((confined_tellAll _ fun c hc => ?_).trans
      (confined_visit _ ⟨rfl, live⟩ (fun c named => mayTell_of_isLive named live) _))
    exact mayTell_of_isLive (s.clicks_document? doc motion c hc) live

/-- Leaving a document changes its state alone. -/
theorem confined_leave (s : Session σ) {reached : String → Prop} {told : HostCall → Prop}
    (h : ∀ doc, s.active = some doc → reached doc) (next : Option String) :
    Confined reached told s (s.leave next) := by
  rw [leave]
  split
  · rename_i previous active
    have left : reached previous := h previous active
    split
    · refine (s.confined_change left _).trans ((confined_onStore _ fun doc other => ?_).trans
        (confined_adjust _ _ _ _))
      have ne : doc ≠ previous := fun same => other (same ▸ left)
      exact (Store.get?_dropRequest ..).trans (if_neg ne)
    · exact .refl s
  · exact .refl s

theorem isLive_leave (s : Session σ) (next : Option String) (doc : String) :
    (s.leave next).isLive doc = s.isLive doc := by
  obtain ⟨store, debouncer, left⟩ := s.leave_cases next
  rw [left]
  rfl

theorem confined_activated (s : Session σ) {next : Option String}
    (template : ∀ doc, next = some doc → s.isTemplate doc = true) :
    Confined (s.reaches · (.activated next)) (s.mayTell (.activated next)) s
      (s.activated next) := by
  have entered : Confined (s.reaches · (.activated next)) (s.mayTell (.activated next)) s
      { s.leave next with active := next } :=
    (s.confined_leave (fun doc active => .inl active) next).trans
      (confined_adjust _ (s.leave next).settings (s.leave next).debouncer next)
  unfold activated
  cases next with
  | none => exact entered
  | some doc =>
    have claimed : ({ s.leave (some doc) with active := some doc } : Session σ).isTemplate doc =
        true := by
      rw [isTemplate, entered.language]
      exact template doc rfl
    dsimp only
    rw [claimed, Bool.not_true, if_neg Bool.false_ne_true]
    split
    · rename_i shown
      have live : s.isLive doc = true := by
        rw [← s.isLive_leave (some doc) doc, isLive, Bool.and_eq_true]
        exact ⟨claimed, shown⟩
      rw [enterTemplate_eq]
      refine entered.trans ((confined_tellAll _ fun c hc => ?_).trans
        (confined_visit _ (.inr rfl) (fun c named => mayTell_of_isLive named live) _))
      exact mayTell_of_publishes (flags_document? _ c hc) live (.inl rfl)
    · exact entered

theorem confined_edited (s : Session σ) (doc : String) (now : Nat) :
    Confined (s.reaches · (.edited doc now)) (s.mayTell (.edited doc now)) s
      (s.edited doc now) := by
  rw [edited]
  split
  · rename_i live
    rw [touch_eq]
    exact (s.confined_change ⟨rfl, live⟩ _).trans (confined_adjust _ _ _ _)
  · exact .refl s

/-- A poll reaches only what waits, which is tracked and so a template. -/
theorem Coherent.confined_polled (keeps : Host.KeepsOpen σ) (h : s.Coherent) (now : Nat) :
    Confined (s.reaches · (.polled now)) (s.mayTell (.polled now)) s (s.polled now) := by
  refine confined_foldl (fun s' c doc due => ?_)
    (s.confined_adjust s.settings (s.debouncer.release now) s.active)
  have tracked : s.store.contains doc = true :=
    h.scheduled doc (Debouncer.isPending_of_mem_due due)
  rw [quieted_eq]
  split
  · rename_i shown
    have live : s.isLive doc = true := by
      rw [← c.isLive keeps, isLive, shown, isTemplate, c.language, Bool.and_true]
      exact h.templates doc tracked
    exact confined_visit _ tracked (fun c named => mayTell_of_isLive named live) _
  · exact .refl _

theorem confined_configured (keeps : Host.KeepsOpen σ) (s : Session σ) (key : String) :
    Confined (s.reaches · (.configured key)) (s.mayTell (.configured key)) s
      (s.configured key) := by
  rw [configured]
  split
  · rename_i affected
    refine confined_foldl (fun s' c doc shown => ?_) (s.confined_adjust _ _ s.active)
    rw [refresh_eq]
    split
    · rename_i live
      rw [c.isLive keeps] at live
      exact confined_visit _ ⟨affected, shown, live⟩ (fun c named => mayTell_of_isLive named live) _
    · exact .refl _
  · exact .refl s

theorem confined_closed (s : Session σ) (doc : String) :
    Confined (s.reaches · (.closed doc)) (s.mayTell (.closed doc)) s (s.closed doc) := by
  refine (s.confined_onStore (f := (·.erase doc)) fun doc' other => ?_).trans
    (confined_adjust _ s.settings (s.debouncer.cancel doc) _)
  exact (KeyMap.get?_erase ..).trans (if_neg (Ne.symm other))

/-- An answer reaches only a document that awaits it, which is tracked and so a template. -/
theorem Coherent.confined_delivered (h : s.Coherent) (request : FoldRequest)
    (folds : Except String (List LineRange)) :
    Confined (s.reaches · (.delivered request folds)) (s.mayTell (.delivered request folds)) s
      (s.delivered request folds) := by
  cases awaited : s.store.awaits request with
  | false =>
    rw [delivered_of_not_awaits awaited]
    exact .refl s
  | true =>
    have tracked : s.store.contains request.document = true := by
      obtain ⟨d, hd, -⟩ := (Store.awaits_iff _ _).1 awaited
      rw [KeyMap.contains, hd]
      rfl
    have settled : Confined (s.reaches · (.delivered request folds))
        (s.mayTell (.delivered request folds)) s (s.onStore (·.settle request)) := by
      rw [onStore, Store.settle_eq_change awaited]
      exact s.confined_change tracked _
    cases shown : Host.isOpen s.host request.document with
    | false =>
      rw [delivered_of_hidden awaited (.inl shown)]
      exact settled
    | true =>
      have live : s.isLive request.document = true := by
        rw [isLive, h.templates _ tracked, shown]
        rfl
      cases snapshot : Host.snapshot? s.host request.document with
      | none =>
        rw [delivered_of_hidden awaited (.inr snapshot)]
        exact settled
      | some snapshot' =>
        rw [delivered_eq awaited shown snapshot]
        refine settled.trans (confined_tellAll _ ?_)
        split
        · exact fun c hc => mayTell_of_isLive (call_document? _ _ c hc) live
        · exact List.forall_mem_nil _

theorem confined_toggle (s : Session σ) (doc : String) (switch : Switch) :
    Confined (s.reaches · (.toggle doc switch)) (s.mayTell (.toggle doc switch)) s
      (s.toggle doc switch).2 := by
  cases live : s.isLive doc with
  | false =>
    rw [toggle, live]
    exact .refl s
  | true =>
    have named (c : HostCall) (h : c.document? = some doc) : s.mayTell (.toggle doc switch) c :=
      mayTell_of_isLive h live
    rw [toggle_eq live]
    refine ((s.confined_tellAll fun c hc => ?_).trans
      (confined_visit _ ⟨rfl, live⟩ named _)).trans
        (confined_tellAll _ fun c hc => named c (s.wraps_document? doc switch c hc))
    rcases s.flipped_document? doc switch c hc with flag | about
    · exact mayTell_of_publishes flag live (.inr ⟨switch, rfl⟩)
    · exact named c about

/-- Every event but the activation of a document that is no template reaches open templates
alone. -/
theorem Coherent.handle_confined (keeps : Host.KeepsOpen σ) (h : s.Coherent) (e : Event)
    (template : ∀ doc, e = .activated (some doc) → s.isTemplate doc = true) :
    Confined (s.reaches · e) (s.mayTell e) s (s.handle e) := by
  cases e with
  | cursorMoved doc motion => exact s.confined_cursorMoved doc motion
  | activated next => exact s.confined_activated fun doc same => template doc (same ▸ rfl)
  | edited doc now => exact s.confined_edited doc now
  | polled now => exact h.confined_polled keeps now
  | configured key => exact confined_configured keeps s key
  | closed doc => exact s.confined_closed doc
  | delivered request folds => exact h.confined_delivered request folds
  | toggle doc switch => exact s.confined_toggle doc switch
  | foldDrawings doc =>
    show Confined _ _ s (s.foldDrawings doc).2
    rw [foldDrawings_eq]
    refine s.confined_tellAll fun c hc => ?_
    obtain ⟨named, live⟩ := s.foldsDrawings_document? doc c hc
    exact mayTell_of_isLive named live
  | unfoldDrawings doc =>
    show Confined _ _ s (s.unfoldDrawings doc)
    rw [unfoldDrawings_eq]
    refine s.confined_tellAll fun c hc => ?_
    obtain ⟨named, live⟩ := s.unfoldsDrawings_document? doc c hc
    exact mayTell_of_isLive named live

/-- What the host is told when a document that is no template becomes active: every group of it is
cleared, and every flag is off. -/
def clearing (doc : String) : List HostCall :=
  ((Feature.all.flatMap Feature.groups).map fun g => .paint doc g []) ++
    Switch.all.map fun switch => .setFlag switch.flag false

theorem activated_of_other {doc : String} (other : s.isTemplate doc = false) :
    s.activated (some doc) =
      { s.leave (some doc) with active := some doc }.tellAll (clearing doc) := by
  obtain ⟨store, debouncer, left⟩ := s.leave_cases (some doc)
  have unclaimed : ({ s.leave (some doc) with active := some doc } : Session σ).isTemplate doc =
      false := by
    rw [left]
    exact other
  have cleared : (Edit.clearAll (Feature.all.flatMap Feature.groups)).map (·.call doc) =
      (Feature.all.flatMap Feature.groups).map fun g => .paint doc g [] := by
    rw [Edit.clearAll, List.map_map]
    rfl
  rw [activated]
  dsimp only
  rw [unclaimed, Bool.not_false, if_pos rfl, enterOther_eq, cleared]
  rfl

/-- Eleven groups are cleared, and three flags are off. -/
example : (clearing "notes.txt").length = 14 := by decide

/-! ## Documents that were closed -/

/-- The event concerns the document: it happens to it while it is live, or makes it active, or the
settings change while it is live and visible. -/
def concerns (s : Session σ) (doc : String) : Event → Prop
  | .cursorMoved d _ | .edited d _ | .toggle d _ => d = doc ∧ s.isLive doc = true
  | .activated next => next = some doc
  | .configured key =>
    Settings.affectedBy key = true ∧ doc ∈ Host.visible s.host ∧ s.isLive doc = true
  | _ => False

/-- The document is neither tracked nor active. -/
def Forgotten (s : Session σ) (doc : String) : Prop :=
  s.store.get? doc = none ∧ s.active ≠ some doc

/-- An event that does not concern a forgotten document does not reach it. -/
theorem Forgotten.not_reaches {doc : String} (f : s.Forgotten doc) {e : Event}
    (unconcerned : ¬ s.concerns doc e) (stays : e ≠ .closed doc) : ¬ s.reaches doc e := by
  have untracked : ¬ s.store.contains doc = true := by
    rw [KeyMap.contains, f.1]
    exact Bool.false_ne_true
  cases e with
  | cursorMoved d motion => exact unconcerned
  | activated next => exact fun reached => reached.elim f.2 unconcerned
  | edited d now => exact unconcerned
  | polled now => exact untracked
  | configured key =>
    rintro ⟨affected, shown, live⟩
    rcases List.mem_append.1 shown with visible | active
    · exact unconcerned ⟨affected, visible, live⟩
    · exact f.2 (Option.mem_toList.1 (List.mem_filter.1 active).1)
  | closed d => exact fun same => stays (congrArg _ same)
  | delivered request folds => exact untracked
  | toggle d switch => exact unconcerned
  | foldDrawings d => exact id
  | unfoldDrawings d => exact id

/-- A document stays forgotten until an event concerns it. -/
theorem Forgotten.handle (keeps : Host.KeepsOpen σ) (h : s.Coherent) {doc : String}
    (f : s.Forgotten doc) {e : Event}
    (unconcerned : ¬ s.concerns doc e) : (s.handle e).Forgotten doc := by
  constructor
  · by_cases closes : e = .closed doc
    · rw [closes]
      exact (KeyMap.get?_erase ..).trans (if_pos rfl)
    by_cases template : ∀ d, e = .activated (some d) → s.isTemplate d = true
    · have kept := (h.handle_confined keeps e template).state doc
      exact (kept (f.not_reaches unconcerned closes)).trans f.1
    · obtain ⟨d, activation⟩ := Classical.not_forall.1 template
      obtain ⟨rfl, other⟩ := Classical.not_imp.1 activation
      have left : Confined (s.active = some ·) (fun _ => True) s (s.leave (some d)) :=
        s.confined_leave (fun _ => id) (some d)
      show (s.activated (some d)).store.get? doc = none
      rw [activated_of_other (by simpa using other)]
      exact (left.state doc f.2).trans f.1
  · rw [h.active_handle]
    cases e with
    | activated next => exact unconcerned
    | closed d =>
      rw [activeAfter]
      split
      · exact Option.some_ne_none doc |>.symm
      · exact f.2
    | _ => exact f.2

omit [Host σ] in
theorem forgotten_closed (s : Session σ) (doc : String) : (s.closed doc).Forgotten doc := by
  refine ⟨(KeyMap.get?_erase ..).trans (if_pos rfl), ?_⟩
  show (if s.active = some doc then none else s.active) ≠ some doc
  split
  · simp
  · assumption

theorem Forgotten.run (keeps : Host.KeepsOpen σ) {s : Session (Recorded σ)} (h : s.Coherent)
    {doc : String} (f : s.Forgotten doc)
    {steps : List (Step σ)}
    (unconcerned : ∀ before e after, steps = before ++ .event e :: after →
      ¬ (s.run before).concerns doc e) : (s.run steps).Forgotten doc := by
  induction steps generalizing s with
  | nil => exact f
  | cons a steps ih =>
    have next : (s.step a).Forgotten doc := by
      cases a with
      | change g => exact f
      | event e =>
        exact f.handle keeps.recorded h (unconcerned [] e steps rfl)
    exact ih (h.step a) next fun before e after split =>
      unconcerned (a :: before) e after (congrArg (a :: ·) split)

/-! ## Runs -/

/-- The record tells the calls that took the host from one state to the next. -/
theorem callsSince_of_foldl {s s' : Session (Recorded σ)} {calls : List HostCall}
    (made : s'.host = calls.foldl Host.perform s.host) :
    (s'.host.callsSince s.host).reverse = calls ∧
      s'.host.host = calls.foldl Host.perform s.host.host := by
  have record : s'.host.calls = calls.reverse ++ s.host.calls := made ▸ s.calls_tellAll calls
  refine ⟨?_, made ▸ s.host_tellAll calls⟩
  rw [Recorded.callsSince_eq record, List.reverse_reverse]

/-- Each call of an event names an open template, or publishes flags of one. -/
theorem Coherent.calls_handle (keeps : Host.KeepsOpen σ) {s : Session (Recorded σ)}
    (h : s.Coherent) {e : Event}
    (template : ∀ doc, e = .activated (some doc) → s.isTemplate doc = true) :
    let calls := ((s.handle e).host.callsSince s.host).reverse
    (s.handle e).host.host = calls.foldl Host.perform s.host.host ∧
      ∀ before call after, calls = before ++ call :: after →
        let live := fun doc => s.isTemplate doc = true ∧
          Host.isOpen (before.foldl Host.perform s.host.host) doc = true
        (∀ doc, call.document? = some doc → live doc) ∧
          (call.document? = none → ∃ doc, live doc ∧ e.publishes doc) := by
  obtain ⟨made, done, told⟩ := (h.handle_confined keeps.recorded e template).calls
  obtain ⟨rfl, performed⟩ := callsSince_of_foldl done
  refine ⟨performed, ?_⟩
  intro before call after split live
  -- a document that is open when the event is taken is open at the time of the call
  have shown (doc : String) (liveThen : s.isLive doc = true) : live doc :=
    ⟨isTemplate_of_isLive liveThen,
      (keeps.foldl s.host.host before doc).trans (isOpen_of_isLive liveThen)⟩
  have may : s.mayTell e call := told call (by rw [split]; simp)
  rw [mayTell] at may
  cases named : call.document? with
  | some doc =>
    rw [named] at may
    exact ⟨fun doc' same => Option.some.inj same ▸ shown doc may, nofun⟩
  | none =>
    rw [named] at may
    obtain ⟨doc, liveThen, publishes⟩ := may
    exact ⟨nofun, fun _ => ⟨doc, shown doc liveThen, publishes⟩⟩

/-- A document that is no template is cleared when it becomes active. -/
theorem calls_of_other {s : Session (Recorded σ)} {doc : String}
    (other : s.isTemplate doc = false) :
    let calls := ((s.handle (.activated (some doc))).host.callsSince s.host).reverse
    (s.handle (.activated (some doc))).host.host = calls.foldl Host.perform s.host.host ∧
      calls = clearing doc := by
  obtain ⟨store, debouncer, left⟩ := s.leave_cases (some doc)
  have done : (s.handle (.activated (some doc))).host =
      (clearing doc).foldl Host.perform s.host := by
    show (s.activated (some doc)).host = _
    rw [activated_of_other other, left]
    rfl
  obtain ⟨same, performed⟩ := callsSince_of_foldl done
  exact ⟨same ▸ performed, same⟩

/-- A document that was closed is forgotten until an event concerns it. -/
theorem forgotten_run (keeps : Host.KeepsOpen σ) (host : σ) (language : Language)
    {before after : List (Step σ)} {doc : String}
    (unconcerned : ∀ between e later, after = between ++ .event e :: later →
      ¬ ((fresh host language).run (before ++ .event (.closed doc) :: between)).concerns doc e) :
    ((fresh host language).run (before ++ .event (.closed doc) :: after)).Forgotten doc := by
  have split (steps : List (Step σ)) :
      (fresh host language).run (before ++ .event (.closed doc) :: steps) =
        (((fresh host language).run before).closed doc).run steps :=
    run_append ..
  simp only [split] at unconcerned ⊢
  exact (forgotten_closed _ doc).run keeps ((run_coherent host language before).closed doc)
    unconcerned

/-- After every run, what waits to go quiet is tracked, and what is tracked is a template. When a
document that is no template becomes active, the host is told to clear every group of it and that
all flags are off. In every other event, each call that names a document names a template which is
open at that time, and flags are published only for an open template that becomes active or whose
switch is flipped. A document that was closed is not tracked, does not wait and is not active until
an event concerns it. -/
theorem events_reach_open_templates (keeps : Host.KeepsOpen σ) (host : σ) (language : Language)
    (steps : List (Step σ)) :
    let s := (fresh host language).run steps
    (∀ doc, s.debouncer.isPending doc = true → s.store.contains doc = true) ∧
    (∀ doc, s.store.contains doc = true → language.claims doc = true) ∧
    (∀ e,
      let calls := ((s.handle e).host.callsSince s.host).reverse
      (s.handle e).host.host = calls.foldl Host.perform s.host.host ∧
      (∀ doc, e = .activated (some doc) → language.claims doc = false → calls = clearing doc) ∧
      ((∀ doc, e = .activated (some doc) → language.claims doc = true) →
        ∀ before call after, calls = before ++ call :: after →
          let live := fun doc => language.claims doc = true ∧
            Host.isOpen (before.foldl Host.perform s.host.host) doc = true
          (∀ doc, call.document? = some doc → live doc) ∧
            (call.document? = none → ∃ doc, live doc ∧ e.publishes doc))) ∧
    ∀ before after doc, steps = before ++ .event (.closed doc) :: after →
      (∀ between e later, after = between ++ .event e :: later →
        ¬ ((fresh host language).run (before ++ .event (.closed doc) :: between)).concerns doc e) →
      s.store.contains doc = false ∧ s.debouncer.isPending doc = false ∧ s.active ≠ some doc := by
  intro s
  have coherent : s.Coherent := run_coherent host language steps
  have claims : s.isTemplate = language.claims := funext (run_isTemplate host language steps)
  refine ⟨coherent.scheduled, claims ▸ coherent.templates, ?_, ?_⟩
  · intro e calls
    by_cases template : ∀ doc, e = .activated (some doc) → s.isTemplate doc = true
    · obtain ⟨performed, each⟩ := coherent.calls_handle keeps template
      rw [claims] at template each
      refine ⟨performed, fun doc activated other => ?_, fun _ => each⟩
      simp [template doc activated] at other
    · obtain ⟨doc, activation⟩ := Classical.not_forall.1 template
      obtain ⟨rfl, other⟩ := Classical.not_imp.1 activation
      obtain ⟨performed, cleared⟩ := s.calls_of_other (by simpa using other)
      refine ⟨performed, fun doc' activated _ => ?_, fun h => absurd (claims ▸ h) template⟩
      cases activated
      exact cleared
  · rintro before after doc rfl unconcerned
    have forgotten : s.Forgotten doc := forgotten_run keeps host language unconcerned
    have untracked : s.store.contains doc = false := by
      rw [KeyMap.contains, forgotten.1]
      rfl
    refine ⟨untracked, Bool.eq_false_iff.2 fun waits => ?_, forgotten.2⟩
    rw [coherent.scheduled doc waits] at untracked
    cases untracked

/-- A workspace with a template and a document that is none. -/
def mixedWorkspace : Workspace :=
  .ofDocuments ((KeyMap.empty.insert "a.erb" ⟨some "", some 0, false⟩).insert "notes.txt"
    ⟨some "", some 0, false⟩) false

/-- A template is edited and closed before the edit has gone quiet, with an answer outstanding. -/
def closedEarly : List (Step Workspace) :=
  [.event (.activated (some "a.erb")), .event (.edited "a.erb" 0), .event (.closed "a.erb"),
    .event (.delivered ⟨"a.erb", 1⟩ (.ok [])), .event (.polled 1000)]

/-- The template is forgotten although it is open; when the other document becomes active, it is
cleared. -/
theorem events_reach_after_closing :
    let s := (fresh mixedWorkspace .default).run closedEarly
    Host.isOpen s.host "a.erb" = true ∧
      (s.store.contains "a.erb" = false ∧ s.debouncer.isPending "a.erb" = false ∧
        s.active ≠ some "a.erb") ∧
      ((s.handle (.activated (some "notes.txt"))).host.callsSince s.host).reverse =
        clearing "notes.txt" := by
  intro s
  obtain ⟨-, -, calls, forgotten⟩ := events_reach_open_templates
    Workspace.steady.keepsOpen mixedWorkspace .default closedEarly
  refine ⟨by decide +kernel, forgotten [.event (.activated (some "a.erb")),
    .event (.edited "a.erb" 0)] _ "a.erb" rfl fun between e later split => ?_,
    (calls (.activated (some "notes.txt"))).2.1 "notes.txt" rfl (by decide +kernel)⟩
  -- neither the answer nor the poll concerns a document
  have later : e = .delivered ⟨"a.erb", 1⟩ (.ok []) ∨ e = .polled 1000 := by
    have mem : Step.event e ∈ between ++ Step.event e :: later := by simp
    rw [← split] at mem
    simpa using mem
  rcases later with rfl | rfl <;> exact id

end Session

end TemplatePaint
