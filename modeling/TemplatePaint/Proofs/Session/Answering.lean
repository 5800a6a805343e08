import TemplatePaint.Proofs.Session.Record

/-!
# Answers by choice

A host whose answers to the requests for folds are chosen, and which is like
another host in all else (`Answering`). With two choices, an event can be
followed when its requests are answered at once and when they are answered
later: it does the same up to the documents that it visits (`handle_splits`).
-/

namespace TemplatePaint

/-- A host, and the answers that are given in its place. -/
structure Answering (σ : Type) where
  host : σ
  choice : FoldRequest → FoldAnswer

namespace Answering

variable {σ : Type} [Host σ]

instance : Host (Answering σ) where
  isOpen a doc := Host.isOpen a.host doc
  text? a doc := Host.text? a.host doc
  cursor? a doc := Host.cursor? a.host doc
  hasSelection a doc := Host.hasSelection a.host doc
  settings a := Host.settings a.host
  visible a := Host.visible a.host
  stored? a doc := Host.stored? a.host doc
  answer a request := a.choice request
  perform a call := { a with host := Host.perform a.host call }

theorem steady (h : Host.Steady σ) : Host.Steady (Answering σ) where
  keepsOpen a call doc := h.keepsOpen a.host call doc
  snapshot? a _ hc doc := h.snapshot? a.host hc doc
  stored? a _ hc doc := h.stored? a.host hc doc

end Answering

/-- The answer at once to a request whose result is known. -/
def FoldAnswer.ofResult : Except String (List LineRange) → FoldAnswer
  | .ok folds => .ready folds
  | .error reason => .failed reason

@[simp] theorem FoldAnswer.folds?_ofResult (result : Except String (List LineRange)) :
    (ofResult result).folds? = some (result.toOption.getD []) := by
  cases result <;> rfl

namespace Session

variable {σ : Type} [Host σ]

/-- From now on, requests are answered by choice. -/
def answering (s : Session (Recorded (Answering σ))) (choice : FoldRequest → FoldAnswer) :
    Session (Recorded (Answering σ)) :=
  { s with host := s.host.change ({ · with choice }) }

/-- The answers do not matter while none is asked for. -/
theorem tellAll_answering (s : Session (Recorded (Answering σ))) {calls : List HostCall}
    (h : ∀ c ∈ calls, c.request? = none) (choice : FoldRequest → FoldAnswer) :
    (s.answering choice).tellAll calls = (s.tellAll calls).answering choice := by
  induction calls generalizing s with
  | nil => rfl
  | cons c cs ih =>
    have told : (s.answering choice).tell c = (s.tell c).answering choice := by
      cases c with
      | requestFolds request => cases h _ List.mem_cons_self
      | _ => rfl
    show ((s.answering choice).tell c).tellAll cs = ((s.tell c).tellAll cs).answering choice
    rw [told, ih _ fun c' hc => h c' (List.mem_cons_of_mem _ hc)]

omit [Host σ] in
theorem leave_answering (s : Session (Recorded (Answering σ))) (next : Option String)
    (choice : FoldRequest → FoldAnswer) :
    (s.answering choice).leave next = (s.leave next).answering choice := by
  unfold leave
  rw [show (s.answering choice).active = s.active from rfl]
  cases s.active with
  | none => rfl
  | some previous =>
    show (if some previous ≠ next ∧ s.store.contains previous = true then _ else _) =
      answering (if _ then _ else _) choice
    split <;> rfl

theorem delivered_answering (s : Session (Recorded (Answering σ))) (request : FoldRequest)
    (folds : Except String (List LineRange)) (choice : FoldRequest → FoldAnswer) :
    (s.answering choice).delivered request folds =
      (s.delivered request folds).answering choice := by
  cases ha : s.store.awaits request with
  | false =>
    rw [delivered_of_not_awaits ha, delivered_of_not_awaits (s := s.answering choice) ha]
  | true =>
    cases ho : Host.isOpen s.host request.document with
    | false =>
      rw [delivered_of_hidden ha (.inl ho),
        delivered_of_hidden (s := s.answering choice) ha (.inl ho)]
      rfl
    | true =>
      cases hs : Host.snapshot? s.host request.document with
      | none =>
        rw [delivered_of_hidden ha (.inr hs),
          delivered_of_hidden (s := s.answering choice) ha (.inr hs)]
        rfl
      | some snapshot =>
        rw [delivered_eq ha ho hs, delivered_eq (s := s.answering choice) ha ho hs,
          ← tellAll_answering _ ?_]
        · rfl
        · split
          · exact call_request? _ _
          · exact nofun

/-- Whatever the host answers, an event does the same up to the documents that it visits; it visits
none, or one that is open, or one after the other. -/
inductive Splits (s : Session (Recorded (Answering σ))) (e : Event) : Prop
  | alike (start : Session (Recorded (Answering σ)))
    (answers : start.host.answers = s.host.answers)
    (h : ∀ choice, (s.answering choice).handle e = start.answering choice)
  | visit (start : Session (Recorded (Answering σ))) (doc : String) (toggles : Toggles)
    (calls : List HostCall) (answers : start.host.answers = s.host.answers)
    (ho : Host.isOpen start.host doc = true)
    (remarks : ∀ c ∈ calls,
      c.isRemark = true ∧ c.movesCursor = false ∧ c.storesToggles = false)
    (h : ∀ choice, (s.answering choice).handle e =
      ((start.answering choice).visit doc toggles).tellAll calls)
  | each (start : Session (Recorded (Answering σ))) (docs : List String)
    {f : Session (Recorded (Answering σ)) → String → Session (Recorded (Answering σ))}
    (answers : start.host.answers = s.host.answers) (hf : f = quieted ∨ f = refresh)
    (h : ∀ choice, (s.answering choice).handle e = docs.foldl f (start.answering choice))

theorem cursorMoved_splits (steady : Host.Steady σ) (s : Session (Recorded (Answering σ)))
    (doc : String) (motion : Motion) : Splits s (.cursorMoved doc motion) := by
  cases live : s.isLive doc with
  | false =>
    refine .alike s rfl fun choice => ?_
    show (s.answering choice).cursorMoved doc motion = _
    rw [cursorMoved, show (s.answering choice).isLive doc = false from live]
    rfl
  | true =>
    have quiet : ∀ c ∈ s.clicks doc motion, c.request? = none :=
      remark_request? (s.clicks_remarks doc motion)
    refine .visit ((s.onDebouncer (·.cancel doc)).tellAll (s.clicks doc motion)) doc
      (s.togglesOnTrack doc) [] (answers_tellAll _ quiet) ?_ (List.forall_mem_nil _)
      fun choice => ?_
    · exact ((Answering.steady steady).recorded.isOpen_foldl _ _ doc).trans (isOpen_of_isLive live)
    show (s.answering choice).cursorMoved doc motion = _
    rw [cursorMoved_eq (s := s.answering choice) live, ← tellAll_answering _ quiet]
    rfl

theorem activated_splits (steady : Host.Steady σ) (s : Session (Recorded (Answering σ)))
    (doc : Option String) : Splits s (.activated doc) := by
  obtain ⟨left, hl⟩ : ∃ left, left = { s.leave doc with active := doc } := ⟨_, rfl⟩
  have answers : left.host.answers = s.host.answers := by
    obtain ⟨store, debouncer, e⟩ := s.leave_cases doc
    rw [hl, e]
  have leaving (choice : FoldRequest → FoldAnswer) :
      { (s.answering choice).leave doc with active := doc } = left.answering choice := by
    rw [leave_answering, hl]
    rfl
  cases doc with
  | none => exact .alike left answers leaving
  | some doc =>
    have activated (choice : FoldRequest → FoldAnswer) :
        (s.answering choice).handle (.activated (some doc)) =
          if !left.isTemplate doc then (left.answering choice).enterOther doc
          else if Host.isOpen left.host doc then (left.answering choice).enterTemplate doc
          else left.answering choice := by
      show (if !isTemplate { (s.answering choice).leave (some doc) with active := some doc } doc
        then _ else _) = _
      rw [leaving]
      rfl
    cases template : left.isTemplate doc with
    | false =>
      have quiet : ∀ c ∈ ((Edit.clearAll (Feature.all.flatMap Feature.groups)).map (·.call doc)) ++
          Switch.all.map fun switch => .setFlag switch.flag false, c.request? = none := by
        intro c hc
        rcases List.mem_append.1 hc with hc | hc
        · exact call_request? doc _ c hc
        · obtain ⟨switch, -, rfl⟩ := List.mem_map.1 hc
          rfl
      refine .alike (left.enterOther doc) ?_ fun choice => ?_
      · rw [enterOther_eq, answers_tellAll _ quiet, answers]
      · rw [activated, template, enterOther_eq, enterOther_eq, ← tellAll_answering _ quiet]
        rfl
    | true =>
      cases isOpen : Host.isOpen left.host doc with
      | false =>
        refine .alike left answers fun choice => ?_
        rw [activated, template, isOpen]
        rfl
      | true =>
        have quiet : ∀ c ∈ flags (left.togglesOnTrack doc), c.request? = none :=
          remark_request? fun c hc => (flags_remarks _ c hc).1
        refine .visit (left.tellAll (flags (left.togglesOnTrack doc))) doc
          (left.togglesOnTrack doc) [] ((answers_tellAll _ quiet).trans answers) ?_
          (List.forall_mem_nil _) fun choice => ?_
        · exact ((Answering.steady steady).recorded.isOpen_foldl _ _ doc).trans isOpen
        rw [activated, template, isOpen, enterTemplate_eq, ← tellAll_answering _ quiet]
        rfl

theorem toggle_splits (steady : Host.Steady σ) (s : Session (Recorded (Answering σ)))
    (doc : String) (switch : Switch) : Splits s (.toggle doc switch) := by
  cases live : s.isLive doc with
  | false =>
    refine .alike s rfl fun choice => ?_
    show ((s.answering choice).toggle doc switch).2 = _
    rw [toggle, show (s.answering choice).isLive doc = false from live]
    rfl
  | true =>
    have quiet : ∀ c ∈ s.flipped doc switch, c.request? = none :=
      remark_request? fun c hc => (s.flipped_remarks doc switch c hc).1
    refine .visit (s.tellAll (s.flipped doc switch)) doc ((s.togglesOnTrack doc).flip switch)
      (s.wraps doc switch) (answers_tellAll _ quiet) ?_ (s.wraps_remarks doc switch)
      fun choice => ?_
    · exact ((Answering.steady steady).recorded.isOpen_foldl _ _ doc).trans (isOpen_of_isLive live)
    · show ((s.answering choice).toggle doc switch).2 = _
      rw [toggle_eq (s := s.answering choice) live, ← tellAll_answering _ quiet]
      rfl

theorem configured_splits (s : Session (Recorded (Answering σ))) (key : String) :
    Splits s (.configured key) := by
  cases affected : Settings.affectedBy key with
  | false =>
    refine .alike s rfl fun choice => ?_
    show (s.answering choice).configured key = _
    rw [configured, affected]
    rfl
  | true =>
    let settings := Settings.load (Host.settings s.host)
    refine .each { s with settings, debouncer := s.debouncer.setQuiet settings.editQuiet } s.shown
      rfl (.inr rfl) fun choice => ?_
    show (s.answering choice).configured key = _
    rw [configured, affected]
    rfl

theorem edited_splits (s : Session (Recorded (Answering σ))) (doc : String) (now : Nat) :
    Splits s (.edited doc now) := by
  cases live : s.isLive doc with
  | false =>
    refine .alike s rfl fun choice => ?_
    show (s.answering choice).edited doc now = _
    rw [edited, show (s.answering choice).isLive doc = false from live]
    rfl
  | true =>
    refine .alike ((s.renew doc (s.togglesOnTrack doc)).onDebouncer (·.schedule doc now)) rfl
      fun choice => ?_
    show (s.answering choice).edited doc now = _
    rw [edited, show (s.answering choice).isLive doc = true from live, touch_eq]
    rfl

/-- An event that only tells the host something does so whatever the host answers. -/
theorem Splits.of_told {s : Session (Recorded (Answering σ))} {e : Event} {calls : List HostCall}
    (quiet : ∀ c ∈ calls, c.isRemark = true)
    (h : ∀ choice, (s.answering choice).handle e = (s.answering choice).tellAll calls) :
    Splits s e :=
  .alike (s.tellAll calls) (answers_tellAll _ (remark_request? quiet)) fun choice =>
    (h choice).trans (tellAll_answering s (remark_request? quiet) choice)

theorem handle_splits (steady : Host.Steady σ) (s : Session (Recorded (Answering σ))) (e : Event) :
    Splits s e := by
  cases e with
  | cursorMoved doc motion => exact s.cursorMoved_splits steady doc motion
  | activated doc => exact s.activated_splits steady doc
  | edited doc now => exact s.edited_splits doc now
  | polled now =>
    exact .each (s.onDebouncer (·.release now)) (s.debouncer.due now) rfl (.inl rfl)
      fun choice => rfl
  | configured key => exact s.configured_splits key
  | closed doc => exact .alike (s.closed doc) rfl fun choice => rfl
  | delivered request folds =>
    exact .alike _ (s.answers_delivered request folds) (s.delivered_answering request folds)
  | toggle doc switch => exact s.toggle_splits steady doc switch
  | foldDrawings doc =>
    exact .of_told (s.foldsDrawings_remarks doc) fun choice =>
      (s.answering choice).foldDrawings_eq doc
  | unfoldDrawings doc =>
    exact .of_told (s.unfoldsDrawings_remarks doc) fun choice =>
      (s.answering choice).unfoldDrawings_eq doc

end Session

end TemplatePaint
