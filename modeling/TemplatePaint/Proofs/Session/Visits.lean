import TemplatePaint.Proofs.Host.Steady
import TemplatePaint.Proofs.Session.Pass

/-!
# Events as visits

An event paints a document by visiting it: the document starts a new
generation and is painted (`visit`). Before, the host may be told something;
`cursorMoved_eq`, `activated_eq`, `toggle_eq` and `refresh_eq` put the events
into this form. With it, all that is known of visits is known of events.
-/

namespace TemplatePaint

namespace HostCall

/-- The call neither paints nor asks for folds. -/
def isRemark : HostCall → Bool
  | .paint .. | .requestFolds _ => false
  | _ => true

/-- The document that a call names; a flag is that of no document. -/
def document? : HostCall → Option String
  | .paint doc _ _ | .switchWrap doc | .setCursor doc _ | .foldLines doc _ | .unfoldAll doc
  | .storeToggles doc _ => some doc
  | .requestFolds request => some request.document
  | .setFlag _ _ => none

end HostCall

theorem call_document? (doc : String) (edits : List Edit) :
    ∀ c ∈ edits.map (·.call doc), c.document? = some doc := by
  intro c hc
  obtain ⟨e, -, rfl⟩ := List.mem_map.1 hc
  rfl

namespace Session

variable {σ : Type} [Host σ]

/-- A document starts a new generation, with these toggles, and is painted. -/
def visit (s : Session σ) (doc : String) (toggles : Toggles) : Session σ :=
  (s.renew doc toggles).repaint doc

/-! ## What a visit does -/

omit [Host σ] in
@[simp] theorem stateOf_renew (s : Session σ) (doc : String) (toggles : Toggles) :
    (s.renew doc toggles).store.stateOf doc = { s.store.stateOf doc with
      toggles, generation := (s.store.stateOf doc).generation + 1 } :=
  (Store.stateOf_change ..).trans (if_pos rfl)

omit [Host σ] in
@[simp] theorem togglesOf_renew (s : Session σ) (doc : String) (toggles : Toggles) :
    (s.renew doc toggles).store.togglesOf doc = toggles :=
  congrArg (·.toggles) (s.stateOf_renew doc toggles)

/-- The request for the folds of a document in its next generation. -/
def nextRequest (s : Session σ) (doc : String) : FoldRequest :=
  ⟨doc, (s.store.stateOf doc).generation + 1⟩

/-- A visit of a document that is not shown only starts a new generation. -/
theorem visit_of_none {s : Session σ} {doc : String} (h : Host.snapshot? s.host doc = none)
    (toggles : Toggles) : s.visit doc toggles = s.renew doc toggles :=
  repaint_of_none h

/-- A visit asks for the folds and paints, and the document is as it leaves it. -/
theorem visit_eq {s : Session σ} {doc : String} {snapshot : Snapshot}
    (h : Host.snapshot? s.host doc = some snapshot) (toggles : Toggles) :
    s.visit doc toggles =
      (s.onStore (·.change doc fun _ =>
        s.stateAfter toggles (s.nextRequest doc) snapshot)).tellAll
        (asksFor toggles (s.nextRequest doc) ++
          (s.paintsFor toggles (s.nextRequest doc) snapshot).map (·.call doc)) := by
  have request : (s.renew doc toggles).store.requestFor doc = s.nextRequest doc := by
    rw [Store.requestFor, stateOf_renew, nextRequest]
  have shown : Host.snapshot? (s.renew doc toggles).host doc = some snapshot := h
  rw [visit, repaint_eq shown (s.togglesOf_renew doc toggles) request, renew]
  simp only [onStore, Store.change_change]
  rfl

theorem asksFor_document? (toggles : Toggles) (request : FoldRequest) :
    ∀ c ∈ asksFor toggles request, c.document? = some request.document := by
  rw [asksFor]
  split <;> simp [HostCall.document?]

/-- A visit changes the state of the document, and the host by calls that name the document, and
neither move a cursor nor store toggles. -/
theorem visit_cases (s : Session σ) (doc : String) (toggles : Toggles) :
    ∃ f calls, s.visit doc toggles = (s.onStore (·.change doc f)).tellAll calls ∧
      (∀ c ∈ calls, c.movesCursor = false ∧ c.storesToggles = false) ∧
      ∀ c ∈ calls, c.document? = some doc := by
  cases hs : Host.snapshot? s.host doc with
  | none =>
    exact ⟨fun d => { d with toggles, generation := d.generation + 1 }, [],
      visit_of_none hs toggles, nofun, nofun⟩
  | some snapshot =>
    refine ⟨_, _, visit_eq hs toggles, fun c hc => ?_,
      List.forall_mem_append.2 ⟨asksFor_document? _ _, call_document? _ _⟩⟩
    rcases List.mem_append.1 hc with hc | hc
    · rw [asksFor] at hc
      split at hc
      · obtain rfl := List.mem_singleton.1 hc
        exact ⟨rfl, rfl⟩
      · cases hc
    · obtain ⟨e, -, rfl⟩ := List.mem_map.1 hc
      exact ⟨rfl, rfl⟩

section
variable (s : Session σ) (doc : String) (toggles : Toggles)

@[simp] theorem settings_visit : (s.visit doc toggles).settings = s.settings := by
  obtain ⟨f, calls, e, -⟩ := s.visit_cases doc toggles
  rw [e]
  rfl

@[simp] theorem language_visit : (s.visit doc toggles).language = s.language := by
  obtain ⟨f, calls, e, -⟩ := s.visit_cases doc toggles
  rw [e]
  rfl

@[simp] theorem debouncer_visit : (s.visit doc toggles).debouncer = s.debouncer := by
  obtain ⟨f, calls, e, -⟩ := s.visit_cases doc toggles
  rw [e]
  rfl

/-- What a steady host shows is the same after a visit. -/
theorem isOpen_visit (steady : Host.Steady σ) (doc' : String) :
    Host.isOpen (s.visit doc toggles).host doc' = Host.isOpen s.host doc' := by
  obtain ⟨f, calls, e, -⟩ := s.visit_cases doc toggles
  rw [e]
  exact steady.isOpen_foldl s.host calls doc'

theorem snapshot?_visit (steady : Host.Steady σ) (doc' : String) :
    Host.snapshot? (s.visit doc toggles).host doc' = Host.snapshot? s.host doc' := by
  obtain ⟨f, calls, e, h, -⟩ := s.visit_cases doc toggles
  rw [e]
  exact steady.snapshot?_foldl s.host (fun c hc => (h c hc).1) doc'

/-- The document has the toggles of the visit. -/
@[simp] theorem togglesOf_visit : (s.visit doc toggles).store.togglesOf doc = toggles := by
  cases hs : Host.snapshot? s.host doc with
  | none => rw [visit_of_none hs, togglesOf_renew]
  | some snapshot =>
    rw [visit_eq hs, tellAll_store, onStore, Store.togglesOf, Store.stateOf_change, if_pos rfl,
      stateAfter]

end

/-! ## Events as visits -/

/-- A click in a folded class attribute moves the cursor. -/
def clicks (s : Session σ) (doc : String) (motion : Motion) : List HostCall :=
  if motion = .mouse then
    (((s.renew doc (s.togglesOnTrack doc)).clickTarget? doc).map (.setCursor doc)).toList
  else []

/-- The flags of a document with these toggles are published. -/
def flags (toggles : Toggles) : List HostCall :=
  Switch.all.map fun switch => .setFlag switch.flag (toggles.get switch)

/-- A flipped switch is published, and the toggles are stored if they outlive sessions. -/
def flipped (s : Session σ) (doc : String) (switch : Switch) : List HostCall :=
  let toggles := (s.togglesOnTrack doc).flip switch
  .setFlag switch.flag (toggles.get switch) ::
    if s.settings.persistence = .always then [.storeToggles doc toggles.stored] else []

/-- Soft wrap is switched with folding. -/
def wraps (s : Session σ) (doc : String) (switch : Switch) : List HostCall :=
  if switch = .folding ∧ s.settings.wrapsWithFolding then [.switchWrap doc] else []

theorem clicks_remarks (s : Session σ) (doc : String) (motion : Motion) :
    ∀ c ∈ s.clicks doc motion, c.isRemark = true := by
  rw [clicks]
  split <;> simp [HostCall.isRemark]

theorem flags_remarks (toggles : Toggles) :
    ∀ c ∈ flags toggles, c.isRemark = true ∧ c.movesCursor = false := by
  simp [flags, HostCall.isRemark, HostCall.movesCursor]

theorem flipped_remarks (s : Session σ) (doc : String) (switch : Switch) :
    ∀ c ∈ s.flipped doc switch, c.isRemark = true ∧ c.movesCursor = false := by
  rw [flipped]
  split <;> simp [HostCall.isRemark, HostCall.movesCursor]

omit [Host σ] in
theorem wraps_remarks (s : Session σ) (doc : String) (switch : Switch) :
    ∀ c ∈ s.wraps doc switch,
      c.isRemark = true ∧ c.movesCursor = false ∧ c.storesToggles = false := by
  rw [wraps]
  split <;> simp [HostCall.isRemark, HostCall.movesCursor, HostCall.storesToggles]

theorem settleClick_eq (s : Session σ) (doc : String) :
    s.settleClick doc = s.tellAll ((s.clickTarget? doc).map (.setCursor doc)).toList := by
  rw [settleClick]
  cases s.clickTarget? doc <;> rfl

theorem cursorMoved_eq {s : Session σ} {doc : String} (live : s.isLive doc = true)
    (motion : Motion) :
    s.cursorMoved doc motion = ((s.onDebouncer (·.cancel doc)).tellAll (s.clicks doc motion)).visit
      doc (s.togglesOnTrack doc) := by
  rw [cursorMoved, if_pos live, clicks, touch_eq]
  split
  · show repaint (settleClick _ doc) doc = _
    rw [settleClick_eq]
    rfl
  · rfl

omit [Host σ] in
/-- Leaving a document changes the store and what waits to go quiet. -/
theorem leave_cases (s : Session σ) (next : Option String) :
    ∃ store debouncer, s.leave next = { s with store, debouncer } := by
  rw [leave]
  split
  · split
    · exact ⟨_, _, rfl⟩
    · exact ⟨_, _, rfl⟩
  · exact ⟨_, _, rfl⟩

theorem enterTemplate_eq (s : Session σ) (doc : String) :
    s.enterTemplate doc = (s.tellAll (flags (s.togglesOnTrack doc))).visit doc
      (s.togglesOnTrack doc) := by
  rw [enterTemplate, touch_eq]
  show ((s.renew doc _).tellAll (Switch.all.map fun switch => .setFlag switch.flag
    (((s.renew doc (s.togglesOnTrack doc)).store.togglesOf doc).get switch))).repaint doc = _
  rw [togglesOf_renew]
  rfl

theorem enterOther_eq (s : Session σ) (doc : String) :
    s.enterOther doc = s.tellAll
      (((Edit.clearAll (Feature.all.flatMap Feature.groups)).map (·.call doc)) ++
        Switch.all.map fun switch => .setFlag switch.flag false) := by
  rw [enterOther, paint_eq, tellAll_append]
  rfl

theorem toggle_eq {s : Session σ} {doc : String} (live : s.isLive doc = true) (switch : Switch) :
    (s.toggle doc switch).2 = ((s.tellAll (s.flipped doc switch)).visit doc
      ((s.togglesOnTrack doc).flip switch)).tellAll (s.wraps doc switch) := by
  rw [toggle, if_pos live]
  show s.flip doc switch = _
  rw [flip, flip_eq]
  generalize ht : (s.togglesOnTrack doc).flip switch = toggles
  have state : (s.renew doc toggles).store.togglesOf doc = toggles := togglesOf_renew ..
  have told : ((s.renew doc toggles).publish doc switch).storeToggles doc =
      (s.tellAll (s.flipped doc switch)).renew doc toggles := by
    rw [flipped, ht, storeToggles, publish, state]
    show (if s.settings.persistence = .always then _ else _) = _
    split
    · rw [show ((s.renew doc toggles).tell _).store.togglesOf doc = toggles from state]
      rfl
    · rfl
  rw [told]
  show (if switch = .folding ∧ (visit _ doc toggles).settings.wrapsWithFolding then
    (visit _ doc toggles).tell _ else visit _ doc toggles) = _
  rw [settings_visit, wraps]
  show (if switch = .folding ∧ s.settings.wrapsWithFolding then _ else _) = _
  split <;> rfl

theorem quieted_eq (s : Session σ) (doc : String) :
    s.quieted doc =
      if Host.isOpen s.host doc then s.visit doc (s.store.togglesOf doc) else s := rfl

theorem refresh_eq (s : Session σ) (doc : String) :
    s.refresh doc = if s.isLive doc then s.visit doc (s.togglesOnTrack doc) else s := by
  rw [refresh, touch_eq]
  rfl

/-- The lines of the drawings of a live document are folded, if there are any. -/
def foldsDrawings (s : Session σ) (doc : String) : List HostCall :=
  if s.isLive doc then
    match Host.text? s.host doc with
    | some text => if (drawingLines text).isEmpty then [] else [.foldLines doc (drawingLines text)]
    | none => []
  else []

/-- Everything in a live document is unfolded. -/
def unfoldsDrawings (s : Session σ) (doc : String) : List HostCall :=
  if s.isLive doc then [.unfoldAll doc] else []

theorem foldsDrawings_remarks (s : Session σ) (doc : String) :
    ∀ c ∈ s.foldsDrawings doc, c.isRemark = true := by
  rw [foldsDrawings]
  repeat' split
  all_goals simp [HostCall.isRemark]

theorem unfoldsDrawings_remarks (s : Session σ) (doc : String) :
    ∀ c ∈ s.unfoldsDrawings doc, c.isRemark = true := by
  rw [unfoldsDrawings]
  split <;> simp [HostCall.isRemark]

theorem foldDrawings_eq (s : Session σ) (doc : String) :
    (s.foldDrawings doc).2 = s.tellAll (s.foldsDrawings doc) := by
  rw [foldDrawings, foldsDrawings]
  split
  · cases Host.text? s.host doc with
    | none => rfl
    | some text =>
      show (if (drawingLines text).isEmpty then s else _) = _
      dsimp only
      split <;> rfl
  · rfl

theorem unfoldDrawings_eq (s : Session σ) (doc : String) :
    s.unfoldDrawings doc = s.tellAll (s.unfoldsDrawings doc) := by
  rw [unfoldDrawings, unfoldsDrawings]
  split <;> rfl

end Session

end TemplatePaint
