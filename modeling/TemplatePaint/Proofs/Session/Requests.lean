import Mathlib.Data.List.Basic
import TemplatePaint.Host.Workspace
import TemplatePaint.Proofs.Session.Record

/-!
# Requests and their answers over a run

Which answers count. An answer that is delivered counts only if its request is
the last one made for its document, the host left it open, and since then the
document did not advance and no answer to it was delivered
(`delivered_counts_only_if_outstanding`). Two invariants carry this: what is
pending for a document is never ahead of it, and if it is current, it is the
last request (`Warranted`, `run_warranted`); and nothing becomes pending but by
a request (`run_pending`).
-/

namespace TemplatePaint

namespace Session

variable {σ : Type} [Host σ]

/-! ## What is pending -/

/-- What is pending for a document in this state is not ahead of its generation. If it is that
generation, the frames are on, and `last`, the last request for the document with its answer, is
what is pending. -/
structure Warranted (doc : String) (d : DocumentState)
    (last : Option (FoldRequest × FoldAnswer)) : Prop where
  le : ∀ g, d.pending = some g → g ≤ d.generation
  frames : d.pending = some d.generation → d.toggles.frames = true
  last : d.pending = some d.generation → last = some (⟨doc, d.generation⟩, .pending)

theorem Warranted.of_none {doc : String} {d : DocumentState}
    {last : Option (FoldRequest × FoldAnswer)} (h : d.pending = none) : Warranted doc d last := by
  refine ⟨fun g e => ?_, fun e => ?_, fun e => ?_⟩ <;> cases h.symm.trans e

theorem StateMove.warranted {doc : String} {d d' : Option DocumentState}
    {answers : List (FoldRequest × FoldAnswer)} {last : Option (FoldRequest × FoldAnswer)}
    (m : StateMove doc d answers d') (h : ∀ st, d = some st → Warranted doc st last) :
    ∀ st, d' = some st → Warranted doc st (answers.head?.or last) := by
  cases m with
  | keep => exact h
  | drop d =>
    rintro _ ⟨⟩
    exact .of_none rfl
  | renew d toggles =>
    rintro _ ⟨⟩
    -- what is pending was not ahead of the generation before
    have le : ∀ g, (d.getD .fresh).pending = some g → g ≤ (d.getD .fresh).generation := by
      cases d with
      | none =>
        intro g e
        cases e
      | some st => exact (h st rfl).le
    refine ⟨fun g e => Nat.le_succ_of_le (le g e), fun e => ?_, fun e => ?_⟩ <;>
      exact absurd (le _ e) (Nat.not_succ_le_self _)
  | restart d toggles expanded =>
    rintro _ ⟨⟩
    exact .of_none rfl
  | ask d hf answer expanded =>
    rintro _ ⟨⟩
    cases answer with
    | ready folds => exact .of_none rfl
    | failed reason => exact .of_none rfl
    | pending => exact ⟨fun g e => Nat.le_of_eq (Option.some.inj e).symm, fun _ => hf, fun _ => rfl⟩

/-- After every run, what is pending is warranted. -/
theorem run_warranted (host : σ) (language : Language) (steps : List (Step σ)) :
    ∀ doc st, ((fresh host language).run steps).store.get? doc = some st →
      Warranted doc st (lastAnswer? ((fresh host language).run steps).host.answers doc) := by
  refine run_keeps_of_moves (P := fun s => ∀ doc st, s.store.get? doc = some st →
    Warranted doc st (lastAnswer? s.host.answers doc)) (fun m h doc => ?_)
    (fun s d _ h doc st e => ?_) (fun s f h => h) (fun doc st e => ?_)
  · obtain ⟨answers, ha, hm⟩ := m.state doc
    have := hm.warranted (h doc)
    rwa [head?_answersFor, ← lastAnswer?_append, ← ha] at this
  · have e' : (s.store.erase d).get? doc = some st := e
    rw [KeyMap.get?_erase] at e'
    split at e'
    · cases e'
    · exact h doc st e'
  · cases e

/-- A generation is pending for a document, and the document is not past it. -/
def IsPending (d : Option DocumentState) (g : Nat) : Prop :=
  ∃ st, d = some st ∧ st.pending = some g ∧ st.generation ≤ g

theorem StateMove.isPending {doc : String} {d d' : Option DocumentState} {g : Nat}
    {answers : List (FoldRequest × FoldAnswer)} (m : StateMove doc d answers d')
    (hn : answers = []) (h : IsPending d' g) : IsPending d g := by
  obtain ⟨st, e, hp, hg⟩ := h
  cases m with
  | keep => exact ⟨st, e, hp, hg⟩
  | drop d =>
    obtain rfl := Option.some.inj e
    cases hp
  | renew d toggles =>
    obtain rfl := Option.some.inj e
    cases d with
    | none => cases hp
    | some d => exact ⟨d, rfl, hp, Nat.le_of_succ_le hg⟩
  | restart d toggles expanded =>
    obtain rfl := Option.some.inj e
    cases hp
  | ask => cases hn

/-- Over a run, the record grows, and nothing becomes pending without a request. -/
theorem run_pending (s : Session (Recorded σ)) (steps : List (Step σ)) (doc : String) :
    ∃ answers, (s.run steps).host.answers = answers ++ s.host.answers ∧
      (answersFor answers doc = [] → ∀ g,
        IsPending ((s.run steps).store.get? doc) g → IsPending (s.store.get? doc) g) := by
  refine run_keeps_of_moves (P := fun s' => ∃ answers,
    s'.host.answers = answers ++ s.host.answers ∧ (answersFor answers doc = [] →
      ∀ g, IsPending (s'.store.get? doc) g → IsPending (s.store.get? doc) g)) ?_ ?_
    (fun s f h => h) ⟨[], rfl, fun _ _ h => h⟩
  · rintro s₁ s₂ m ⟨answers, ha, h⟩
    obtain ⟨new, hn, hm⟩ := m.state doc
    refine ⟨new ++ answers, by rw [hn, ha, List.append_assoc], fun e g hp => ?_⟩
    rw [answersFor_append, List.append_eq_nil_iff] at e
    exact h e.2 g (hm.isPending e.1 hp)
  · rintro s₁ d - ⟨answers, ha, h⟩
    refine ⟨answers, ha, fun e g hp => h e g ?_⟩
    obtain ⟨st, he, hp⟩ := hp
    have he' : (s₁.store.erase d).get? doc = some st := he
    rw [KeyMap.get?_erase] at he'
    split at he'
    · cases he'
    · exact ⟨st, he', hp⟩

/-- What a run adds to the record, it adds in its parts. -/
theorem answersSince_run_append (s : Session (Recorded σ)) (xs ys : List (Step σ)) :
    (s.run (xs ++ ys)).host.answersSince s.host =
      (s.run (xs ++ ys)).host.answersSince (s.run xs).host ++
        (s.run xs).host.answersSince s.host := by
  obtain ⟨old, ho, -⟩ := run_pending s xs ""
  obtain ⟨new, hn, -⟩ := run_pending (s.run xs) ys ""
  rw [run_append, Recorded.answersSince_eq hn]
  exact Recorded.answersSince_of_append hn ⟨old, ho.symm⟩

/-- If a document was asked for in a run, there is a step that asked for it last. -/
theorem exists_last_request (s : Session (Recorded σ)) (steps : List (Step σ)) (doc : String)
    (h : answersFor ((s.run steps).host.answersSince s.host) doc ≠ []) :
    ∃ before a after, steps = before ++ a :: after ∧
      answersFor ((s.run (before ++ [a])).host.answersSince (s.run before).host) doc ≠ [] ∧
      answersFor ((s.run steps).host.answersSince (s.run (before ++ [a])).host) doc = [] := by
  induction steps generalizing s with
  | nil =>
    rw [show (s.run []).host.answersSince s.host = [] from Recorded.answersSince_eq rfl] at h
    exact absurd rfl h
  | cons a steps ih =>
    by_cases hr : answersFor (((step s a).run steps).host.answersSince (step s a).host) doc = []
    · refine ⟨[], a, steps, rfl, fun e => h ?_, hr⟩
      rw [show a :: steps = [a] ++ steps from rfl, answersSince_run_append, answersFor_append]
      exact List.append_eq_nil_iff.2 ⟨hr, e⟩
    · obtain ⟨before, b, after, rfl, hb, hn⟩ := ih (step s a) hr
      exact ⟨a :: before, b, after, rfl, hb, hn⟩

/-! ## Which answers count -/

/-- The request `r` is outstanding after some steps: nothing has made it stale. -/
structure Outstanding (s : Session (Recorded σ)) (steps : List (Step σ)) (r : FoldRequest) :
    Prop where
  /-- No request was made for its document after it, and the host left it open. -/
  last : lastAnswer? (s.run steps).host.answers r.document = some (r, .pending)
  /-- A step made it, and after that step the document did not advance, and no answer to the
  request was delivered. -/
  since : ∃ before a after, steps = before ++ a :: after ∧
    (r, .pending) ∈ (s.run (before ++ [a])).host.answersSince (s.run before).host ∧
    (∀ mid, mid <+: after →
      ((s.run (before ++ a :: mid)).store.stateOf r.document).generation = r.generation) ∧
    ∀ folds, .event (.delivered r folds) ∉ after

/-- What is awaited after a run was awaited before its last steps, unless these asked anew. -/
theorem awaits_of_run {host : σ} {language : Language} {steps steps' : List (Step σ)}
    {r : FoldRequest} (h : ((fresh host language).run (steps ++ steps')).store.awaits r = true)
    (hn : answersFor (((fresh host language).run (steps ++ steps')).host.answersSince
      ((fresh host language).run steps).host) r.document = []) :
    ((fresh host language).run steps).store.awaits r = true := by
  obtain ⟨st, hst, hg, hp⟩ := (Store.awaits_iff _ _).1 h
  rw [run_append] at hst hn
  obtain ⟨new, ha, back⟩ := run_pending ((fresh host language).run steps) steps' r.document
  rw [Recorded.answersSince_eq ha] at hn
  obtain ⟨st', hst', hp', hle⟩ := back hn r.generation ⟨st, hst, hp, Nat.le_of_eq hg⟩
  have le := (run_warranted host language steps _ _ hst').le _ hp'
  exact (Store.awaits_iff _ _).2 ⟨st', hst', Nat.le_antisymm hle le, hp'⟩

/-- An answer that was delivered is not awaited any more. -/
theorem not_awaits_delivered (s : Session σ) (r : FoldRequest)
    (folds : Except String (List LineRange)) :
    (s.delivered r folds).store.awaits r = false := by
  obtain ⟨edits, e⟩ := s.delivered_cases r folds
  rw [e, tellAll_store]
  exact Store.awaits_settle s.store r

/-- The request whose answer is awaited is the last one, and the host left it open. -/
theorem lastAnswer?_of_awaits {host : σ} {language : Language} {steps : List (Step σ)}
    {r : FoldRequest} (h : ((fresh host language).run steps).store.awaits r = true) :
    lastAnswer? ((fresh host language).run steps).host.answers r.document =
      some (r, .pending) := by
  obtain ⟨st, hst, hg, hp⟩ := (Store.awaits_iff _ _).1 h
  have last := (run_warranted host language steps _ _ hst).last (hg ▸ hp)
  rwa [hg] at last

/-- A request whose answer is awaited is outstanding. -/
theorem outstanding_of_awaits {host : σ} {language : Language} {steps : List (Step σ)}
    {r : FoldRequest} (h : ((fresh host language).run steps).store.awaits r = true) :
    Outstanding (fresh host language) steps r := by
  have asked : answersFor (((fresh host language).run steps).host.answersSince
      (fresh host language).host) r.document ≠ [] := by
    obtain ⟨new, hn, -⟩ := run_pending (fresh host language) steps ""
    have last := lastAnswer?_of_awaits h
    rw [hn, show (fresh host language).host.answers = [] from rfl, List.append_nil] at last
    rw [Recorded.answersSince_eq hn]
    intro e
    rw [← head?_answersFor, e] at last
    cases last
  obtain ⟨before, a, after, rfl, made, none⟩ := exists_last_request _ _ _ asked
  have awaited (mid : List (Step σ)) (hm : mid <+: after) :
      ((fresh host language).run (before ++ a :: mid)).store.awaits r = true := by
    obtain ⟨rest, rfl⟩ := hm
    have split : before ++ a :: (mid ++ rest) = before ++ a :: mid ++ rest := by simp
    rw [split] at h
    refine awaits_of_run h ?_
    rw [show before ++ a :: (mid ++ rest) = before ++ [a] ++ (mid ++ rest) by simp, run_append,
      answersSince_run_append, answersFor_append, ← run_append, ← run_append] at none
    simpa using (List.append_eq_nil_iff.1 none).1
  refine ⟨lastAnswer?_of_awaits h, before, a, after, rfl, ?_, fun mid hm => ?_, fun folds hd => ?_⟩
  · obtain ⟨new, hn, -⟩ := run_pending ((fresh host language).run before) [a] ""
    rw [← run_append] at hn
    rw [Recorded.answersSince_eq hn] at made ⊢
    have last := lastAnswer?_of_awaits (awaited [] List.nil_prefix)
    rw [hn] at last
    exact List.mem_of_mem_filter (mem_of_lastAnswer? made last)
  · obtain ⟨st, hst, hg, -⟩ := (Store.awaits_iff _ _).1 (awaited mid hm)
    rw [Store.stateOf_of_get? hst, hg]
  · obtain ⟨mid, rest, rfl⟩ := List.append_of_mem hd
    have := awaited (mid ++ [.event (.delivered r folds)]) ⟨rest, by simp⟩
    rw [← List.cons_append, ← List.append_assoc, run_append] at this
    exact absurd (this.symm.trans (not_awaits_delivered _ r folds)) (by decide)

/-- After every run, an answer that is not awaited changes nothing, and makes no call. One that is
awaited is the answer to an outstanding request, and paints the two groups of the frames, each
once, as the frames are with the delivered folds in what the host shows now; if there are none to
be had, as they are without folds. -/
theorem delivered_counts_only_if_outstanding (host : σ) (language : Language)
    (steps : List (Step σ)) (r : FoldRequest) (folds : Except String (List LineRange)) :
    let s := (fresh host language).run steps
    (s.store.awaits r = false → s.delivered r folds = s) ∧
    (s.store.awaits r = true →
      Outstanding (fresh host language) steps r ∧
      ∀ snapshot, Host.isOpen s.host r.document = true →
        Host.snapshot? s.host r.document = some snapshot →
        let edits := Feature.frameLinks.edits
          (s.passOver r.document snapshot (folds.toOption.getD []))
        edits.map Edit.group = [.frame, .frameScope] ∧
          (s.delivered r folds).host.calls =
            (edits.map (·.call r.document)).reverse ++ s.host.calls) := by
  intro s
  refine ⟨fun h => delivered_of_not_awaits h folds, fun h => ⟨outstanding_of_awaits h, ?_⟩⟩
  intro snapshot ho hs edits
  obtain ⟨st, hst, hg, hp⟩ := (Store.awaits_iff _ _).1 h
  have frames : (s.store.togglesOf r.document).frames = true := by
    rw [Store.togglesOf, Store.stateOf_of_get? hst]
    exact (run_warranted host language steps _ _ hst).frames (hg ▸ hp)
  refine ⟨Feature.map_group_edits _ .frameLinks, ?_⟩
  rw [delivered_eq h ho hs folds, if_pos frames, calls_tellAll]
  rfl

/-- A workspace with an empty template, whose folds are always delivered later. -/
def lateWorkspace : Workspace :=
  { Workspace.ofDocuments (KeyMap.empty.insert "a.erb" ⟨some "", some 0, false⟩) false with
    answer := .pending }

/-- Of two requests, the answer to the first does nothing, and the second is outstanding. -/
theorem outstanding_second_request :
    let steps := [.event (.activated (some "a.erb")), .event (.cursorMoved "a.erb" .keyboard)]
    let s := (fresh lateWorkspace .default).run steps
    s.host.answers = [(⟨"a.erb", 2⟩, .pending), (⟨"a.erb", 1⟩, .pending)] ∧
      s.delivered ⟨"a.erb", 1⟩ (.ok []) = s ∧
      Outstanding (fresh lateWorkspace .default) steps ⟨"a.erb", 2⟩ :=
  ⟨by decide +kernel,
    (delivered_counts_only_if_outstanding lateWorkspace .default _ _ _).1 (by decide +kernel),
    ((delivered_counts_only_if_outstanding lateWorkspace .default _ _ (.ok [])).2
      (by decide +kernel)).1⟩

end Session

end TemplatePaint
