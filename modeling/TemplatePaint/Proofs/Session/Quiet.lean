import TemplatePaint.Proofs.Debouncer.Trace
import TemplatePaint.Proofs.Session.Upkeep

/-!
# Edits that go quiet

A document that was edited is owed a pass, which a poll makes once the document
has been quiet. What is owed is read off the history alone (`Owes`): of the
accepted edits of the document the last one counts, with the quiet interval
that was in force, unless something since has taken it back (`dismisses`). The
debouncer keeps just that: `deadline?_run`. An event adds an accepted edit, or
keeps the deadline unless it dismisses it (`deadline?_handle`).
-/

namespace TemplatePaint

namespace Session

variable {σ : Type} [Host σ] {s : Session σ}

/-! ## What waits after an event -/

/-- When a document that waits goes quiet. -/
def deadline? (s : Session σ) (doc : String) : Option Nat := s.debouncer.deadline? doc

/-- What waits after an event. -/
def debouncerAfter (s : Session σ) : Event → Debouncer
  | .cursorMoved doc _ => if s.isLive doc then s.debouncer.cancel doc else s.debouncer
  | .activated next => (s.leave next).debouncer
  | .edited doc now => if s.isLive doc then s.debouncer.schedule doc now else s.debouncer
  | .polled now => s.debouncer.release now
  | .configured key =>
    if Settings.affectedBy key then
      s.debouncer.setQuiet (Settings.load (Host.settings s.host)).editQuiet
    else s.debouncer
  | .closed doc => s.debouncer.cancel doc
  | _ => s.debouncer

omit [Host σ] in
/-- Documents that are painted one after the other do not change what waits. -/
theorem debouncer_foldl {f : Session σ → String → Session σ}
    (h : ∀ s doc, (f s doc).debouncer = s.debouncer) (docs : List String) (s : Session σ) :
    (docs.foldl f s).debouncer = s.debouncer := by
  induction docs generalizing s with
  | nil => rfl
  | cons doc docs ih => exact (ih _).trans (h s doc)

theorem debouncer_quieted (s : Session σ) (doc : String) :
    (s.quieted doc).debouncer = s.debouncer := by
  rw [quieted_eq]
  split
  · exact s.debouncer_visit doc _
  · rfl

theorem debouncer_refresh (s : Session σ) (doc : String) :
    (s.refresh doc).debouncer = s.debouncer := by
  rw [refresh_eq]
  split
  · exact s.debouncer_visit doc _
  · rfl

theorem debouncer_activated (s : Session σ) (next : Option String) :
    (s.activated next).debouncer = (s.leave next).debouncer := by
  unfold activated
  cases next with
  | none => rfl
  | some doc =>
    dsimp only
    split
    · rw [enterOther_eq]
      rfl
    · split
      · rw [enterTemplate_eq, debouncer_visit]
        rfl
      · rfl

theorem debouncer_toggle (s : Session σ) (doc : String) (switch : Switch) :
    (s.toggle doc switch).2.debouncer = s.debouncer := by
  cases live : s.isLive doc with
  | false =>
    rw [toggle, live]
    rfl
  | true =>
    rw [toggle_eq live, tellAll_debouncer, debouncer_visit]
    rfl

theorem debouncer_handle (s : Session σ) (e : Event) :
    (s.handle e).debouncer = s.debouncerAfter e := by
  cases e with
  | cursorMoved doc motion =>
    show (s.cursorMoved doc motion).debouncer = _
    cases live : s.isLive doc with
    | false => simp [cursorMoved, debouncerAfter, live]
    | true =>
      rw [cursorMoved_eq live, debouncer_visit, debouncerAfter, if_pos live]
      rfl
  | activated next => exact s.debouncer_activated next
  | edited doc now =>
    show (s.edited doc now).debouncer = _
    rw [edited, debouncerAfter]
    split
    · rw [touch_eq]
      rfl
    · rfl
  | polled now => exact debouncer_foldl debouncer_quieted _ _
  | configured key =>
    show (s.configured key).debouncer = _
    rw [configured, debouncerAfter]
    split
    · exact debouncer_foldl debouncer_refresh _ _
    · rfl
  | closed doc => rfl
  | delivered request folds =>
    obtain ⟨edits, e⟩ := s.delivered_cases request folds
    show (s.delivered request folds).debouncer = _
    rw [e]
    rfl
  | toggle doc switch => exact s.debouncer_toggle doc switch
  | foldDrawings doc =>
    show (s.foldDrawings doc).2.debouncer = _
    rw [foldDrawings_eq]
    rfl
  | unfoldDrawings doc =>
    show (s.unfoldDrawings doc).debouncer = _
    rw [unfoldDrawings_eq]
    rfl

omit [Host σ] in
/-- A document that is left waits no longer. -/
theorem deadline?_leave (h : s.Coherent) (next : Option String) (doc : String) :
    (s.leave next).deadline? doc =
      if s.active = some doc ∧ next ≠ some doc then none else s.deadline? doc := by
  rw [leave]
  cases active : s.active with
  | none => simp
  | some previous =>
    by_cases same : previous = doc
    · subst same
      by_cases stays : next = some previous
      · simp [stays]
      · rw [if_pos ⟨rfl, stays⟩]
        dsimp only
        split
        · exact (Debouncer.deadline?_cancel ..).trans (if_pos rfl)
        · -- a document that is not tracked does not wait
          rename_i untracked
          refine Option.not_isSome_iff_eq_none.1 fun waits => untracked ⟨Ne.symm stays, ?_⟩
          exact h.scheduled previous waits
    · rw [if_neg fun left => same (Option.some.inj left.1)]
      dsimp only
      split
      · exact (Debouncer.deadline?_cancel ..).trans (if_neg (Ne.symm same))
      · rfl

/-- The event takes back what is owed to the edits of a document since its deadline was set: its
cursor moves, it is edited anew, another document becomes active in its place, it is closed, or its
deadline has come. -/
def dismisses (s : Session σ) (doc : String) (deadline : Nat) : Event → Prop
  | .cursorMoved d _ | .edited d _ => d = doc ∧ s.isLive doc = true
  | .activated next => s.active = some doc ∧ next ≠ some doc
  | .closed d => d = doc
  | .polled now => deadline ≤ now
  | _ => False

/-- After an event, a document has the deadline that its accepted edit sets, or the one that it had,
if the event does not take it back. -/
theorem deadline?_handle (h : s.Coherent) (e : Event) (doc : String) (deadline : Nat) :
    (s.handle e).deadline? doc = some deadline ↔
      (∃ now, e = .edited doc now ∧ s.isLive doc = true ∧ deadline = now + s.debouncer.quiet) ∨
        s.deadline? doc = some deadline ∧ ¬ s.dismisses doc deadline e := by
  have after : (s.handle e).deadline? doc = (s.debouncerAfter e).deadline? doc :=
    congrArg (·.deadline? doc) (s.debouncer_handle e)
  rw [after]
  cases e with
  | cursorMoved d motion =>
    by_cases same : d = doc
    · subst same
      cases live : s.isLive d <;> simp [debouncerAfter, dismisses, deadline?, live]
    · cases live : s.isLive d <;>
        simp [debouncerAfter, dismisses, deadline?, live, same, Ne.symm same]
  | activated next =>
    have left := deadline?_leave h next doc
    rw [deadline?] at left
    rw [debouncerAfter, left]
    by_cases away : s.active = some doc ∧ next ≠ some doc
    · simp [dismisses, away]
    · rw [if_neg away]
      simp [dismisses, away]
  | edited d now =>
    by_cases same : d = doc
    · subst same
      cases live : s.isLive d <;>
        simp [debouncerAfter, dismisses, deadline?, live, eq_comm]
    · cases live : s.isLive d <;>
        simp [debouncerAfter, dismisses, deadline?, live, same, Ne.symm same]
  | polled now =>
    rw [debouncerAfter, Debouncer.deadline?_release]
    simp [dismisses, deadline?, Option.filter_eq_some_iff]
  | configured key =>
    have kept : (s.debouncerAfter (.configured key)).deadline? doc = s.deadline? doc := by
      rw [debouncerAfter]
      split <;> rfl
    simp [kept, dismisses]
  | closed d =>
    by_cases same : doc = d
    · simp [debouncerAfter, dismisses, deadline?, same]
    · simp [debouncerAfter, dismisses, deadline?, same, Ne.symm same]
  | _ => simp [debouncerAfter, dismisses, deadline?]

/-! ## The quiet interval -/

/-- The quiet interval is that of the settings. -/
def Timed (s : Session σ) : Prop := s.debouncer.quiet = s.settings.editQuiet

theorem Timed.handle (t : s.Timed) (h : s.Coherent) (e : Event) : (s.handle e).Timed := by
  rw [Timed, debouncer_handle, h.settings_handle]
  cases e with
  | cursorMoved doc motion =>
    rw [debouncerAfter]
    split <;> exact t
  | activated next =>
    rw [debouncerAfter, leave]
    split
    · split <;> exact t
    · exact t
  | edited doc now =>
    rw [debouncerAfter]
    split <;> exact t
  | polled now => exact (s.debouncer.quiet_release now).trans t
  | configured key =>
    rw [debouncerAfter, settingsAfter]
    split
    · rfl
    · exact t
  | _ => exact t

/-! ## What is owed after a run -/

/-- Of some steps, the last accepted edit of a document sets this deadline, and no event since has
taken it back. -/
def Owes (s : Session (Recorded σ)) (steps : List (Step σ)) (doc : String) (deadline : Nat) :
    Prop :=
  ∃ before now after, steps = before ++ .event (.edited doc now) :: after ∧
    (s.run before).isLive doc = true ∧
    deadline = now + (s.run before).settings.editQuiet ∧
    ∀ between e later, after = between ++ .event e :: later →
      ¬ (s.run (before ++ .event (.edited doc now) :: between)).dismisses doc deadline e

/-- One more step is an accepted edit, or leaves what is owed unless it takes it back. -/
theorem owes_append_singleton {s : Session (Recorded σ)} {steps : List (Step σ)} {a : Step σ}
    {doc : String} {deadline : Nat} :
    s.Owes (steps ++ [a]) doc deadline ↔
      (∃ now, a = .event (.edited doc now) ∧ (s.run steps).isLive doc = true ∧
        deadline = now + (s.run steps).settings.editQuiet) ∨
      s.Owes steps doc deadline ∧ ∀ e, a = .event e → ¬ (s.run steps).dismisses doc deadline e := by
  constructor
  · rintro ⟨before, now, after, split, live, set, stands⟩
    rcases append_cons_eq_append_singleton.1 split.symm with ⟨rfl, rfl, rfl⟩ | ⟨rest, rfl, rfl⟩
    · exact .inl ⟨now, rfl, live, set⟩
    · refine .inr ⟨⟨before, now, rest, rfl, live, set, fun between e later split => ?_⟩, ?_⟩
      · exact stands between e (later ++ [a]) (by rw [split]; simp)
      · rintro e rfl
        exact stands rest e [] rfl
  · rintro (⟨now, rfl, live, set⟩ | ⟨⟨before, now, after, rfl, live, set, stands⟩, last⟩)
    · exact ⟨steps, now, [], rfl, live, set, by simp⟩
    · refine ⟨before, now, after ++ [a], by simp, live, set, fun between e later split => ?_⟩
      rcases append_cons_eq_append_singleton.1 split.symm with ⟨rfl, rfl, rfl⟩ | ⟨rest, rfl, rfl⟩
      · exact last e rfl
      · exact stands between e rest rfl

theorem run_timed (host : σ) (language : Language) (steps : List (Step σ)) :
    ((fresh host language).run steps).Timed :=
  (run_keeps (P := fun s => s.Coherent ∧ s.Timed) (fun s a ⟨h, t⟩ => by
    refine ⟨h.step a, ?_⟩
    cases a with
    | event e => exact t.handle h e
    | change f => exact t) ⟨coherent_fresh host language, rfl⟩ steps).2

/-- After a run, a document waits for a deadline just if the run owes it a pass then. -/
theorem deadline?_run (host : σ) (language : Language) (steps : List (Step σ)) (doc : String)
    (deadline : Nat) :
    ((fresh host language).run steps).deadline? doc = some deadline ↔
      (fresh host language).Owes steps doc deadline := by
  induction steps using List.reverseRecOn with
  | nil =>
    refine ⟨fun h => (nomatch (h : none = some deadline)), ?_⟩
    rintro ⟨before, now, after, split, -⟩
    simp at split
  | append_singleton steps a ih =>
    have coherent := run_coherent host language steps
    have timed := run_timed host language steps
    rw [run_append, owes_append_singleton, ← ih]
    cases a with
    | change f =>
      show ((fresh host language).run steps).deadline? doc = some deadline ↔ _
      simp
    | event e =>
      show (((fresh host language).run steps).handle e).deadline? doc = some deadline ↔ _
      rw [deadline?_handle coherent, timed]
      simp

/-- After a poll, what is owed later is still owed, and nothing else is. -/
theorem owes_polled {s : Session (Recorded σ)} {steps : List (Step σ)} {now : Nat} {doc : String}
    {deadline : Nat} :
    s.Owes (steps ++ [.event (.polled now)]) doc deadline ↔
      s.Owes steps doc deadline ∧ now < deadline := by
  rw [owes_append_singleton]
  simp [dismisses]

end Session

end TemplatePaint
