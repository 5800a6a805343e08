import Mathlib.Data.List.Nodup
import TemplatePaint.Proofs.Session.Requests

/-!
# Requests across closings

While a document is not closed, it is asked for in increasing generations
(`run_increasing`). Closing it forgets its state: what was awaited is awaited no
more (`mem_requestsIn_of_awaits`), but the generation is forgotten too, and once
the document is open again, the requests start from the first generation. So
the requests of a run are distinct just if none is repeated across a closing
(`requests_distinct_iff`).
-/

namespace TemplatePaint

namespace Session

variable {σ : Type} [Host σ]

/-- The requests of a list, the latest first, have increasing generations, all past `lo` and none
past `hi`. -/
structure Increasing (answers : List (FoldRequest × FoldAnswer)) (lo hi : Nat) : Prop where
  le : lo ≤ hi
  lt : ∀ x ∈ answers, lo < x.1.generation
  le' : ∀ x ∈ answers, x.1.generation ≤ hi
  pairwise : answers.Pairwise fun later earlier => earlier.1.generation < later.1.generation

theorem Increasing.append {new old : List (FoldRequest × FoldAnswer)} {lo mid hi : Nat}
    (ho : Increasing old lo mid) (hn : Increasing new mid hi) : Increasing (new ++ old) lo hi where
  le := Nat.le_trans ho.le hn.le
  lt x hx := (List.mem_append.1 hx).elim (fun h => Nat.lt_of_le_of_lt ho.le (hn.lt x h)) (ho.lt x)
  le' x hx := (List.mem_append.1 hx).elim (hn.le' x) fun h => Nat.le_trans (ho.le' x h) hn.le
  pairwise := List.pairwise_append.2 ⟨hn.pairwise, ho.pairwise,
    fun x hx y hy => Nat.lt_of_le_of_lt (ho.le' y hy) (hn.lt x hx)⟩

theorem Increasing.nil {lo hi : Nat} (h : lo ≤ hi) : Increasing [] lo hi :=
  ⟨h, nofun, nofun, .nil⟩

theorem StateMove.increasing {doc : String} {d d' : Option DocumentState}
    {answers : List (FoldRequest × FoldAnswer)} (m : StateMove doc d answers d') :
    Increasing answers (d.getD .fresh).generation (d'.getD .fresh).generation := by
  cases m with
  | keep => exact .nil (Nat.le_refl _)
  | drop d => exact .nil (Nat.le_refl _)
  | renew d toggles => exact .nil (Nat.le_succ _)
  | restart d toggles expanded => exact .nil (Nat.le_succ _)
  | ask d hf answer expanded =>
    refine ⟨Nat.le_succ _, ?_, ?_, List.pairwise_singleton _ _⟩ <;> rintro x hx <;>
      obtain rfl := List.mem_singleton.1 hx
    · exact Nat.lt_succ_self _
    · exact Nat.le_refl _

/-- While a document is not closed, it is asked for with increasing generations. -/
theorem run_increasing (s : Session (Recorded σ)) {steps : List (Step σ)} {doc : String}
    (h : .event (.closed doc) ∉ steps) :
    Increasing (answersFor ((s.run steps).host.answersSince s.host) doc)
      (s.store.stateOf doc).generation ((s.run steps).store.stateOf doc).generation := by
  suffices ∃ answers, (s.run steps).host.answers = answers ++ s.host.answers ∧
      Increasing (answersFor answers doc) (s.store.stateOf doc).generation
        ((s.run steps).store.stateOf doc).generation by
    obtain ⟨answers, ha, hi⟩ := this
    rwa [Recorded.answersSince_eq ha]
  refine run_keeps_of_moves (P := fun s' => ∃ answers,
    s'.host.answers = answers ++ s.host.answers ∧
      Increasing (answersFor answers doc) (s.store.stateOf doc).generation
        (s'.store.stateOf doc).generation) ?_ ?_ (fun s f h => h)
    ⟨[], rfl, .nil (Nat.le_refl _)⟩
  · rintro s₁ s₂ m ⟨answers, ha, hi⟩
    obtain ⟨new, hn, hm⟩ := m.state doc
    refine ⟨new ++ answers, by rw [hn, ha, List.append_assoc], ?_⟩
    rw [answersFor_append]
    exact hi.append hm.increasing
  · rintro s₁ d hd ⟨answers, ha, hi⟩
    refine ⟨answers, ha, ?_⟩
    have hne : doc ≠ d := fun e => h (e ▸ hd)
    rwa [show (s₁.closed d).store.stateOf doc = s₁.store.stateOf doc by
      rw [closed, Store.stateOf, KeyMap.get?_erase, if_neg hne, Store.stateOf]]

/-- The requests that a run makes for a document, the latest first. -/
def requestsIn (s : Session (Recorded σ)) (steps : List (Step σ)) (doc : String) :
    List FoldRequest :=
  (answersFor ((s.run steps).host.answersSince s.host) doc).map (·.1)

theorem requestsIn_append (s : Session (Recorded σ)) (xs ys : List (Step σ)) (doc : String) :
    s.requestsIn (xs ++ ys) doc = (s.run xs).requestsIn ys doc ++ s.requestsIn xs doc := by
  rw [requestsIn, answersSince_run_append, answersFor_append, List.map_append, run_append]
  rfl

/-- Closing a document asks for nothing. -/
theorem requestsIn_closed (s : Session (Recorded σ)) (doc doc' : String) (steps : List (Step σ)) :
    s.requestsIn (.event (.closed doc) :: steps) doc' = (s.closed doc).requestsIn steps doc' := rfl

theorem nodup_requestsIn_of_not_closed (s : Session (Recorded σ)) {steps : List (Step σ)}
    {doc : String} (h : .event (.closed doc) ∉ steps) : (s.requestsIn steps doc).Nodup := by
  refine List.pairwise_map.2 ((run_increasing s h).pairwise.imp fun lt e => ?_)
  rw [e] at lt
  exact Nat.lt_irrefl _ lt

/-- The requests for a document are distinct if none is repeated across a closing. -/
theorem nodup_requestsIn (s : Session (Recorded σ)) (doc : String) (steps : List (Step σ))
    (h : ∀ before after, steps = before ++ .event (.closed doc) :: after →
      List.Disjoint (s.requestsIn before doc) (((s.run before).closed doc).requestsIn after doc)) :
    (s.requestsIn steps doc).Nodup := by
  by_cases hc : .event (.closed doc) ∈ steps
  · -- up to the first closing the generations increase; the steps after it are fewer
    obtain ⟨before, after, rfl, hb⟩ := List.eq_append_cons_of_mem hc
    rw [requestsIn_append, requestsIn_closed]
    refine (nodup_requestsIn _ doc after fun b a e => ?_).append
      (nodup_requestsIn_of_not_closed s hb) (List.disjoint_symm (h before after rfl))
    have split := h (before ++ .event (.closed doc) :: b) a (by simp [e])
    rw [requestsIn_append, requestsIn_closed, run_append] at split
    exact (List.disjoint_append_left.1 split).1
  · exact nodup_requestsIn_of_not_closed s hc
termination_by steps.length

theorem requests_run_fresh (host : σ) (language : Language) (steps : List (Step σ)) :
    ((fresh host language).run steps).host.calls.filterMap (·.request?) =
      (((fresh host language).run steps).host.answersSince (fresh host language).host).map
        (·.1) := by
  obtain ⟨new, hn, -⟩ := run_pending (fresh host language) steps ""
  rw [← Recorded.answers_eq, Recorded.answersSince_eq hn, hn,
    show (fresh host language).host.answers = [] from rfl, List.append_nil]

theorem map_answersFor (answers : List (FoldRequest × FoldAnswer)) (doc : String) :
    (answersFor answers doc).map (·.1) = (answers.map (·.1)).filter (·.document = doc) := by
  rw [List.filter_map]
  rfl

/-- Requests are distinct if they are so for each document. -/
theorem nodup_iff_forall_document (requests : List FoldRequest) :
    requests.Nodup ↔ ∀ doc, (requests.filter (·.document = doc)).Nodup := by
  refine ⟨fun h doc => h.filter _, fun h => List.nodup_iff_count_le_one.2 fun r => ?_⟩
  rw [← List.count_filter (p := (·.document = r.document)) (decide_eq_true rfl)]
  exact List.nodup_iff_count_le_one.1 (h r.document) r

/-! ## After a closing -/

/-- A document that is seen for the first time is asked for in the first generation. -/
theorem visit_of_untracked {s : Session (Recorded σ)} {doc : String} {snapshot : Snapshot}
    (new : s.store.get? doc = none) (hs : Host.snapshot? s.host doc = some snapshot)
    {toggles : Toggles} (frames : toggles.frames = true) :
    (s.visit doc toggles).host.answers =
        (⟨doc, 1⟩, Host.answer s.host ⟨doc, 1⟩) :: s.host.answers ∧
      (s.visit doc toggles).store.awaits ⟨doc, 1⟩ =
        (Host.answer s.host ⟨doc, 1⟩).folds?.isNone := by
  have request : s.nextRequest doc = ⟨doc, 1⟩ := by
    rw [nextRequest, Store.stateOf, new]
    rfl
  refine ⟨?_, ?_⟩
  · rw [answers_visit hs, answersTo, if_pos frames, request]
    rfl
  · rw [visit_eq hs, tellAll_store, onStore, Store.awaits, Store.get?_change, if_pos rfl,
      stateAfter, foldsFor, if_pos frames, request]
    cases (Host.answer s.host ⟨doc, 1⟩).folds? <;> rfl

/-- What is awaited for a document that was closed was asked for after the closing. -/
theorem mem_requestsIn_of_awaits {host : σ} {language : Language} {before after : List (Step σ)}
    {r : FoldRequest} (h : ((fresh host language).run
      (before ++ .event (.closed r.document) :: after)).store.awaits r = true) :
    r ∈ (((fresh host language).run before).closed r.document).requestsIn after r.document := by
  have last := lastAnswer?_of_awaits h
  obtain ⟨st, hst, hg, hp⟩ := (Store.awaits_iff _ _).1 h
  rw [run_append] at hst last
  -- the closing forgot what was pending before it
  have forgotten (g : Nat) : ¬IsPending
      ((((fresh host language).run before).closed r.document).store.get? r.document) g := by
    rintro ⟨st, e, -⟩
    exact nomatch ((KeyMap.get?_erase ..).trans (if_pos rfl)).symm.trans e
  obtain ⟨new, ha, back⟩ := run_pending (((fresh host language).run before).closed r.document)
    after r.document
  have asked : answersFor new r.document ≠ [] := fun e =>
    forgotten r.generation (back e _ ⟨st, hst, hp, Nat.le_of_eq hg⟩)
  rw [requestsIn, Recorded.answersSince_eq ha]
  exact List.mem_map_of_mem (f := Prod.fst) (mem_of_lastAnswer? asked (ha ▸ last))

/-- When a document was closed and is live again, its next request is of the first generation. -/
theorem request_after_closing (s : Session (Recorded σ)) {doc : String} (change : σ → σ)
    {snapshot : Snapshot} :
    let s' := s.run [.event (.closed doc), .change change]
    s'.isLive doc = true → Host.snapshot? s'.host doc = some snapshot →
      (s'.togglesOnTrack doc).frames = true →
      (s'.cursorMoved doc .keyboard).host.calls.filterMap (·.request?) =
          ⟨doc, 1⟩ :: s'.host.calls.filterMap (·.request?) ∧
        (Host.answer s'.host ⟨doc, 1⟩ = .pending →
          (s'.cursorMoved doc .keyboard).store.awaits ⟨doc, 1⟩ = true) := by
  intro s' live hs frames
  have new : s'.store.get? doc = none := (KeyMap.get?_erase ..).trans (if_pos rfl)
  obtain ⟨answers, awaits⟩ :=
    visit_of_untracked (s := s'.onDebouncer (·.cancel doc)) new hs frames
  have moved : s'.cursorMoved doc .keyboard =
      (s'.onDebouncer (·.cancel doc)).visit doc (s'.togglesOnTrack doc) := cursorMoved_eq live _
  rw [moved]
  refine ⟨?_, fun pending => ?_⟩
  · rw [← Recorded.answers_eq, answers, List.map_cons, Recorded.answers_eq]
    rfl
  · rw [awaits]
    exact congrArg (·.folds?.isNone) pending

/-- The requests of a run are distinct just if none is repeated after its document was closed, and
an answer to a request from before the closing counts only if it is repeated. It may be repeated:
whenever a document was closed and is live again, with the frames on, the next request for it is of
the first generation; if the host will answer it later, an answer to any request of that generation
counts. -/
theorem requests_distinct_iff (host : σ) (language : Language) (steps : List (Step σ)) :
    ((((fresh host language).run steps).host.calls.filterMap (·.request?)).Nodup ↔
      ∀ doc before after, steps = before ++ .event (.closed doc) :: after →
        List.Disjoint ((fresh host language).requestsIn before doc)
          ((((fresh host language).run before).closed doc).requestsIn after doc)) ∧
    (∀ before after r, steps = before ++ .event (.closed r.document) :: after →
      ((fresh host language).run steps).store.awaits r = true →
        r ∈ (((fresh host language).run before).closed r.document).requestsIn after
          r.document) ∧
    ∀ doc change snapshot,
      let s := (fresh host language).run (steps ++ [.event (.closed doc), .change change])
      s.isLive doc = true → Host.snapshot? s.host doc = some snapshot →
      (s.togglesOnTrack doc).frames = true →
      (s.cursorMoved doc .keyboard).host.calls.filterMap (·.request?) =
          ⟨doc, 1⟩ :: s.host.calls.filterMap (·.request?) ∧
        (Host.answer s.host ⟨doc, 1⟩ = .pending →
          (s.cursorMoved doc .keyboard).store.awaits ⟨doc, 1⟩ = true) := by
  refine ⟨?_, ?_, ?_⟩
  · rw [requests_run_fresh, nodup_iff_forall_document]
    simp only [← map_answersFor]
    refine ⟨fun h doc before after e => ?_, fun h doc =>
      nodup_requestsIn _ doc steps (h doc)⟩
    have nodup : ((fresh host language).requestsIn steps doc).Nodup := h doc
    rw [e, requestsIn_append, requestsIn_closed] at nodup
    exact List.disjoint_symm nodup.disjoint
  · rintro before after r rfl h
    exact mem_requestsIn_of_awaits h
  · intro doc change snapshot
    rw [run_append]
    exact request_after_closing _ change

/-- A template is activated, closed, and opened again. -/
def reopening : List (Step Workspace) :=
  [.event (.activated (some "a.erb")), .event (.closed "a.erb"),
    .change (·.openDocument "a.erb" ⟨some "", some 0, false⟩)]

/-- The request after the reopening repeats the one before. -/
theorem request_repeated_after_reopening :
    let s := (fresh lateWorkspace .default).run reopening
    (s.isLive "a.erb" = true ∧ (s.togglesOnTrack "a.erb").frames = true) ∧
      (s.cursorMoved "a.erb" .keyboard).host.calls.filterMap (·.request?) =
        [⟨"a.erb", 1⟩, ⟨"a.erb", 1⟩] := by
  refine ⟨by decide +kernel, ?_⟩
  refine ((requests_distinct_iff lateWorkspace .default [.event (.activated (some "a.erb"))]).2.2
    "a.erb" (·.openDocument "a.erb" ⟨some "", some 0, false⟩) ⟨"", 0, false, by decide⟩
    (by decide +kernel) (by decide +kernel) (by decide +kernel)).1.trans ?_
  decide +kernel

/-- The two requests for a template that was closed and opened again are the same, and an answer to
the first counts for the second. -/
theorem requests_not_distinct_after_reopening :
    let s := (fresh lateWorkspace .default).run
      (reopening ++ [.event (.cursorMoved "a.erb" .keyboard)])
    ¬(s.host.calls.filterMap (·.request?)).Nodup ∧
      s.store.awaits ⟨"a.erb", 1⟩ = true := by
  decide +kernel

end Session

end TemplatePaint
