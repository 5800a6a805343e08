import TemplatePaint.Proofs.Session.Moves

/-!
# What the record of a host tells

The record grows by the calls that a session makes, and by the answers to the
requests among them. For one document, a move of the session does one of a few
things to its state, and gets at most one answer for it (`StateMove`,
`Move.state`): a request is always made in a new generation.
-/

namespace TemplatePaint

theorem request?_of_isRemark {call : HostCall} (h : call.isRemark = true) :
    call.request? = none := by
  cases call <;> first | rfl | cases h

theorem remark_request? {calls : List HostCall} (h : ∀ c ∈ calls, c.isRemark = true) :
    ∀ c ∈ calls, c.request? = none :=
  fun c hc => request?_of_isRemark (h c hc)

theorem call_request? (doc : String) (edits : List Edit) :
    ∀ c ∈ edits.map (·.call doc), c.request? = none := by
  intro c hc
  obtain ⟨e, -, rfl⟩ := List.mem_map.1 hc
  rfl

theorem lastAnswer?_append (new old : List (FoldRequest × FoldAnswer)) (doc : String) :
    lastAnswer? (new ++ old) doc = (lastAnswer? new doc).or (lastAnswer? old doc) :=
  List.find?_append

/-- The answers of a list for one document. -/
def answersFor (answers : List (FoldRequest × FoldAnswer)) (doc : String) :
    List (FoldRequest × FoldAnswer) :=
  answers.filter (·.1.document = doc)

theorem answersFor_append (xs ys : List (FoldRequest × FoldAnswer)) (doc : String) :
    answersFor (xs ++ ys) doc = answersFor xs doc ++ answersFor ys doc :=
  List.filter_append ..

theorem head?_answersFor (answers : List (FoldRequest × FoldAnswer)) (doc : String) :
    (answersFor answers doc).head? = lastAnswer? answers doc :=
  List.head?_filter

/-- If a document was asked for anew, its last answer is a new one. -/
theorem mem_of_lastAnswer? {new old : List (FoldRequest × FoldAnswer)} {doc : String}
    {x : FoldRequest × FoldAnswer} (asked : answersFor new doc ≠ [])
    (last : lastAnswer? (new ++ old) doc = some x) : x ∈ answersFor new doc := by
  obtain ⟨y, ys, e⟩ := List.exists_cons_of_ne_nil asked
  rw [lastAnswer?_append, ← head?_answersFor new, e] at last
  obtain rfl : y = x := Option.some.inj last
  exact e ▸ List.mem_cons_self

namespace Session

variable {σ : Type} [Host σ]

theorem host_tellAll (s : Session (Recorded σ)) (calls : List HostCall) :
    (s.tellAll calls).host.host = calls.foldl Host.perform s.host.host := by
  induction calls generalizing s with
  | nil => rfl
  | cons c cs ih => exact ih (s.tell c)

theorem calls_tellAll (s : Session (Recorded σ)) (calls : List HostCall) :
    (s.tellAll calls).host.calls = calls.reverse ++ s.host.calls := by
  induction calls generalizing s with
  | nil => rfl
  | cons c cs ih =>
    rw [show s.tellAll (c :: cs) = (s.tell c).tellAll cs from rfl, ih, List.reverse_cons,
      List.append_assoc]
    rfl

theorem answers_tellAll (s : Session (Recorded σ)) {calls : List HostCall}
    (h : ∀ c ∈ calls, c.request? = none) :
    (s.tellAll calls).host.answers = s.host.answers := by
  induction calls generalizing s with
  | nil => rfl
  | cons c cs ih =>
    rw [show s.tellAll (c :: cs) = (s.tell c).tellAll cs from rfl,
      ih _ fun c' hc => h c' (List.mem_cons_of_mem _ hc)]
    show ((c.request?.toList.map _) ++ s.host.answers) = _
    rw [h c List.mem_cons_self]
    rfl

theorem suffix_answers_tellAll (s : Session (Recorded σ)) (calls : List HostCall) :
    s.host.answers <:+ (s.tellAll calls).host.answers := by
  induction calls generalizing s with
  | nil => exact List.suffix_rfl
  | cons c cs ih => exact (List.suffix_append _ _).trans (ih (s.tell c))

theorem calls_visit {s : Session (Recorded σ)} {doc : String} {snapshot : Snapshot}
    (h : Host.snapshot? s.host doc = some snapshot) (toggles : Toggles) :
    (s.visit doc toggles).host.calls =
      ((s.paintsFor toggles (s.nextRequest doc) snapshot).map (·.call doc)).reverse ++
        (asksFor toggles (s.nextRequest doc) ++ s.host.calls) := by
  have asks : (asksFor toggles (s.nextRequest doc)).reverse =
      asksFor toggles (s.nextRequest doc) := by
    rw [asksFor]
    split <;> rfl
  rw [visit_eq h, calls_tellAll, List.reverse_append, asks, List.append_assoc]
  rfl

/-- The answers that a pass gets at once to what it asks. -/
def answersTo (s : Session (Recorded σ)) (toggles : Toggles) (request : FoldRequest) :
    List (FoldRequest × FoldAnswer) :=
  if toggles.frames then [(request, Host.answer s.host request)] else []

theorem answers_visit {s : Session (Recorded σ)} {doc : String} {snapshot : Snapshot}
    (h : Host.snapshot? s.host doc = some snapshot) (toggles : Toggles) :
    (s.visit doc toggles).host.answers =
      s.answersTo toggles (s.nextRequest doc) ++ s.host.answers := by
  rw [visit_eq h, tellAll_append, answers_tellAll _ (call_request? _ _), asksFor, answersTo]
  split <;> rfl

theorem answersFor_answersTo (s : Session (Recorded σ)) (toggles : Toggles) (doc doc' : String) :
    answersFor (s.answersTo toggles (s.nextRequest doc)) doc' =
      if doc' = doc then s.answersTo toggles (s.nextRequest doc) else [] := by
  rw [answersTo]
  split
  · by_cases h : doc' = doc
    · rw [if_pos h, answersFor, List.filter_cons_of_pos (by rw [h]; exact decide_eq_true rfl)]
      rfl
    · rw [if_neg h, answersFor,
        List.filter_cons_of_neg fun e => h (of_decide_eq_true e).symm]
      rfl
  · split <;> rfl

/-! ## One document -/

/-- What a move does to the state of a document, beside the answers that are given for it. -/
inductive StateMove (doc : String) :
    Option DocumentState → List (FoldRequest × FoldAnswer) → Option DocumentState → Prop
  /-- The document is not concerned. -/
  | keep (d : Option DocumentState) : StateMove doc d [] d
  /-- No answer is awaited any more. -/
  | drop (d : DocumentState) : StateMove doc (some d) [] (some { d with pending := none })
  /-- A new generation starts, and is not painted yet. -/
  | renew (d : Option DocumentState) (toggles : Toggles) :
    StateMove doc d [] (some { d.getD .fresh with
      toggles, generation := (d.getD .fresh).generation + 1 })
  /-- A new generation starts, and needs no folds. -/
  | restart (d : Option DocumentState) (toggles : Toggles) (expanded : Option TextRange) :
    StateMove doc d [] (some ⟨toggles, (d.getD .fresh).generation + 1, none, expanded⟩)
  /-- A new generation starts, and its folds are asked for. -/
  | ask (d : Option DocumentState) {toggles : Toggles} (h : toggles.frames = true)
    (answer : FoldAnswer) (expanded : Option TextRange) :
    StateMove doc d [(⟨doc, (d.getD .fresh).generation + 1⟩, answer)]
      (some ⟨toggles, (d.getD .fresh).generation + 1,
        if answer.folds?.isNone then some ((d.getD .fresh).generation + 1) else none, expanded⟩)

/-- When the state of one document is changed, `StateMove` has to be shown of that one alone. -/
theorem stateMove_change {store : Store} {doc doc' : String} {f : DocumentState → DocumentState}
    {answers : List (FoldRequest × FoldAnswer)} (hne : doc' ≠ doc → answers = [])
    (h : doc' = doc → StateMove doc (store.get? doc) answers (some (f (store.stateOf doc)))) :
    StateMove doc' (store.get? doc') answers ((store.change doc f).get? doc') := by
  rw [Store.get?_change]
  by_cases e : doc' = doc
  · rw [if_pos e, e]
    exact h e
  · rw [if_neg e, hne e]
    exact .keep _

/-- A delivered answer is settled, and may paint. -/
theorem delivered_cases (s : Session σ) (request : FoldRequest)
    (folds : Except String (List LineRange)) :
    ∃ edits : List Edit, s.delivered request folds =
      (s.onStore (·.settle request)).tellAll (edits.map (·.call request.document)) := by
  cases ha : s.store.awaits request with
  | false =>
    refine ⟨[], (delivered_of_not_awaits ha folds).trans ?_⟩
    show s = { s with store := s.store.settle request }
    rw [Store.settle, ha]
    rfl
  | true =>
    cases ho : Host.isOpen s.host request.document with
    | false => exact ⟨[], delivered_of_hidden ha (.inl ho) folds⟩
    | true =>
      cases hs : Host.snapshot? s.host request.document with
      | none => exact ⟨[], delivered_of_hidden ha (.inr hs) folds⟩
      | some snapshot =>
        rw [delivered_eq ha ho hs folds]
        split
        · exact ⟨_, rfl⟩
        · exact ⟨[], rfl⟩

/-- A delivered answer asks for nothing. -/
theorem answers_delivered (s : Session (Recorded σ)) (request : FoldRequest)
    (folds : Except String (List LineRange)) :
    (s.delivered request folds).host.answers = s.host.answers := by
  obtain ⟨edits, e⟩ := s.delivered_cases request folds
  rw [e]
  exact answers_tellAll _ (call_request? _ _)

theorem stateMove_settle (store : Store) (request : FoldRequest) (doc : String) :
    StateMove doc (store.get? doc) [] ((store.settle request).get? doc) := by
  rw [Store.get?_settle]
  split
  · rename_i h
    obtain ⟨d, hd, -⟩ := (Store.awaits_iff _ _).1 h.2
    rw [h.1, hd]
    exact .drop d
  · exact .keep _

/-- A visit of a document starts a new generation, and asks for its folds if it needs them. -/
theorem visit_state (s : Session (Recorded σ)) (doc : String) (toggles : Toggles)
    (doc' : String) :
    ∃ answers, (s.visit doc toggles).host.answers = answers ++ s.host.answers ∧
      StateMove doc' (s.store.get? doc') (answersFor answers doc')
        ((s.visit doc toggles).store.get? doc') := by
  cases hs : Host.snapshot? s.host doc with
  | none =>
    rw [visit_of_none hs]
    exact ⟨[], rfl, stateMove_change (fun _ => rfl) fun _ => .renew _ toggles⟩
  | some snapshot =>
    refine ⟨_, answers_visit hs toggles, ?_⟩
    rw [visit_eq hs, tellAll_store, onStore, answersFor_answersTo]
    refine stateMove_change (fun e => if_neg e) fun e => ?_
    rw [if_pos e, stateAfter, answersTo, foldsFor]
    cases hf : toggles.frames with
    | false => exact .restart _ _ _
    | true => exact .ask _ hf _ _

/-- What a move does to a document, and what it adds to the answers. -/
theorem Move.state {s s' : Session (Recorded σ)} (m : Move s s') (doc : String) :
    ∃ answers, s'.host.answers = answers ++ s.host.answers ∧
      StateMove doc (s.store.get? doc) (answersFor answers doc) (s'.store.get? doc) := by
  cases m with
  | remark calls h => exact ⟨[], answers_tellAll s (remark_request? h), .keep _⟩
  | adjust settings debouncer active => exact ⟨[], rfl, .keep _⟩
  | touch h => exact ⟨[], rfl, stateMove_change (fun _ => rfl) fun _ => .renew _ _⟩
  | leave previous =>
    refine ⟨[], rfl, ?_⟩
    have tracked : (s.store.advance previous).contains previous = true := by
      rw [KeyMap.contains, Store.advance, Store.get?_change, if_pos rfl]
      rfl
    show StateMove doc _ [] (((s.store.advance previous).dropRequest previous).get? doc)
    rw [Store.dropRequest_eq_change tracked, Store.advance, Store.change_change]
    exact stateMove_change (fun _ => rfl) fun _ => .restart _ _ _
  | visit toggles calls ho h =>
    rename_i visited
    obtain ⟨answers, ha, hm⟩ := (s.tellAll calls).visit_state visited toggles doc
    exact ⟨answers, ha.trans (answers_tellAll s (remark_request? h) ▸ rfl), hm⟩
  | clear h =>
    rw [paint_eq]
    exact ⟨[], answers_tellAll s (call_request? _ _), .keep _⟩
  | deliver request folds =>
    refine ⟨[], s.answers_delivered request folds, ?_⟩
    obtain ⟨edits, e⟩ := s.delivered_cases request folds
    rw [e]
    exact stateMove_settle _ _ _

end Session

end TemplatePaint
