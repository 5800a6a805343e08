import TemplatePaint.Proofs.Session.Folding

/-!
# Clicks in folded class attributes

A click in a folded class attribute puts the cursor at the start of its value,
which lies inside the attribute, so the cursor touches no other one. A click
that is left where it is touches at most the attribute that is expanded already.
Either way at most one attribute is touched (`Span.landed_unique`), the pass
expands it, and a second click has nothing to move (`Span.clicked?_of_unique`).
So a click settles at once (`Session.click_settles`), if the host just moves the
cursor when it is told to.
-/

namespace TemplatePaint

namespace Span

variable {text : String} {cursor : Nat} {expanded : Option TextRange} {a b : Span}

/-- Where a click at the cursor puts it, if one range is expanded. -/
def clicked? (text : String) (cursor : Nat) (expanded : Option TextRange) : Option Nat := do
  let touched ← (scan text [.classAttribute]).find? fun span =>
    span.range.touches cursor && expanded != some span.range
  let value ← touched.value?
  if value.range.start = cursor then none else some value.range.start

/-- Where the cursor is after a click. -/
def landed (text : String) (cursor : Nat) (expanded : Option TextRange) : Nat :=
  (clicked? text cursor expanded).getD cursor

theorem find?_clicked_eq_some (h : (scan text [.classAttribute]).find? (fun span =>
      span.range.touches cursor && expanded != some span.range) = some a) :
    a ∈ scan text [.classAttribute] ∧ a.range.touches cursor = true ∧ expanded ≠ some a.range := by
  have found := List.find?_some h
  rw [Bool.and_eq_true, bne_iff_ne] at found
  exact ⟨List.mem_of_find?_eq_some h, found⟩

theorem find?_clicked_eq_none (h : (scan text [.classAttribute]).find? (fun span =>
      span.range.touches cursor && expanded != some span.range) = none)
    (ha : a ∈ scan text [.classAttribute]) (touched : a.range.touches cursor = true) :
    expanded = some a.range := by
  have passed := List.find?_eq_none.1 h a ha
  rw [touched, Bool.true_and, bne_iff_ne] at passed
  exact Classical.not_not.1 passed

/-- A click leaves the cursor where it is and touches no attribute but the expanded one, or it puts
the cursor at the start of the value of an attribute that it touches and that is not expanded. -/
theorem clicked?_cases (text : String) (cursor : Nat) (expanded : Option TextRange) :
    (clicked? text cursor expanded = none ∧ landed text cursor expanded = cursor ∧
        ∀ a ∈ scan text [.classAttribute], a.range.touches cursor = true →
          expanded = some a.range) ∨
      ∃ a ∈ scan text [.classAttribute], ∃ v, a.value? = some v ∧
        a.range.touches cursor = true ∧ expanded ≠ some a.range ∧
        landed text cursor expanded = v.range.start ∧
        (clicked? text cursor expanded = none ∨
          clicked? text cursor expanded = some v.range.start) := by
  cases found : (scan text [.classAttribute]).find? fun span =>
      span.range.touches cursor && expanded != some span.range with
  | none =>
    have stays : clicked? text cursor expanded = none := by rw [clicked?, found]; rfl
    exact .inl ⟨stays, by rw [landed, stays]; rfl, fun a ha => find?_clicked_eq_none found ha⟩
  | some a =>
    obtain ⟨ha, touched, collapsed⟩ := find?_clicked_eq_some found
    obtain ⟨v, hv, -⟩ := exists_value ha
    have clicked : clicked? text cursor expanded =
        if v.range.start = cursor then none else some v.range.start := by
      rw [clicked?, found]
      exact congrArg (Option.bind · _) hv
    refine .inr ⟨a, ha, v, hv, touched, collapsed, ?_⟩
    rw [landed, clicked]
    split
    · rename_i start
      exact ⟨start.symm, .inl rfl⟩
    · exact ⟨rfl, .inr rfl⟩

/-- A click is moved to the start of the value of an attribute that it touches and that is not
expanded, inside the text. -/
theorem exists_of_clicked?_eq_some {offset : Nat}
    (h : clicked? text cursor expanded = some offset) :
    ∃ a ∈ scan text [.classAttribute], ∃ v, a.value? = some v ∧ a.range.touches cursor = true ∧
      expanded ≠ some a.range ∧ offset = v.range.start ∧ offset < text.toList.length := by
  rcases clicked?_cases text cursor expanded with
    ⟨stays, -⟩ | ⟨a, ha, v, hv, touched, collapsed, -, stays | moved⟩
  · cases h.symm.trans stays
  · cases h.symm.trans stays
  · obtain rfl := Option.some.inj (h.symm.trans moved)
    have inside := value_inside ha hv
    have := (located_of_mem_scan text _ ha).stop_le
    exact ⟨a, ha, v, hv, touched, collapsed, rfl, by omega⟩

/-- After a click the cursor, if it is cut off at the end of the text, touches at most one class
attribute. -/
theorem landed_unique (text : String) (cursor : Nat) (expanded : Option TextRange) :
    ∀ a ∈ scan text [.classAttribute], ∀ b ∈ scan text [.classAttribute],
      a.range.touches (min (landed text cursor expanded) text.toList.length) = true →
        b.range.touches (min (landed text cursor expanded) text.toList.length) = true → a = b := by
  intro a ha b hb touched touched'
  have bounds := located_of_mem_scan text _ ha
  have bounds' := located_of_mem_scan text _ hb
  have := bounds.start_lt_stop
  have := bounds.stop_le
  have := bounds'.start_lt_stop
  have := bounds'.stop_le
  rcases clicked?_cases text cursor expanded with ⟨-, stays, only⟩ | ⟨c, hc, v, hv, -, -, moved, -⟩
  · rw [stays] at touched touched'
    rcases Nat.le_total cursor text.toList.length with inside | behind
    · rw [Nat.min_eq_left inside] at touched touched'
      have same := (only a ha touched).symm.trans (only b hb touched')
      exact eq_of_range_eq ha hb (Option.some.inj same)
    · -- at the end of the text, no attribute starts
      rw [Nat.min_eq_right behind] at touched touched'
      rcases eq_or_meet ha hb touched touched' with same | meet | meet
      · exact same
      · omega
      · omega
  · have inside := value_inside hc hv
    have := (located_of_mem_scan text _ hc).stop_le
    rw [moved, Nat.min_eq_left (by omega)] at touched touched'
    -- the value starts inside its attribute, which is therefore the only one that is touched
    have only {d : Span} (hd : d ∈ scan text [.classAttribute])
        (touched : d.range.touches v.range.start = true) : d = c := by
      have touches : c.range.touches v.range.start = true := TextRange.touches_iff.2 (by omega)
      rcases eq_or_meet hd hc touched touches with same | meet | meet
      · exact same
      · omega
      · omega
    exact (only ha touched).trans (only hb touched').symm

/-- Once the only attribute that the cursor touches is expanded, a click leaves the cursor. -/
theorem clicked?_of_unique {shown : Nat}
    (one : ∀ a ∈ scan text [.classAttribute], ∀ b ∈ scan text [.classAttribute],
      a.range.touches shown = true → b.range.touches shown = true → a = b)
    (cut : min cursor text.toList.length = shown) :
    clicked? text cursor (((scan text [.classAttribute]).find? (·.range.touches shown)).map
      (·.range)) = none := by
  let expanded := ((scan text [.classAttribute]).find? (·.range.touches shown)).map (·.range)
  have nothing : (scan text [.classAttribute]).find? (fun span =>
      span.range.touches cursor && expanded != some span.range) = none := by
    refine List.find?_eq_none.2 fun a ha => ?_
    rw [Bool.and_eq_true, bne_iff_ne, ne_eq, not_and, Classical.not_not]
    intro touched
    have := (located_of_mem_scan text _ ha).stop_le
    have inside := TextRange.touches_iff.1 touched
    obtain rfl : cursor = shown := by omega
    exact congrArg (Option.map (·.range)) <| find?_eq_some_of_unique ha touched
      fun b hb touched' => one b hb a ha touched' touched
  rw [clicked?, nothing]
  rfl

end Span

/-- A host that shows a snapshot has its text, a cursor that is cut off to the snapshot's, and its
selection. -/
theorem Host.of_snapshot? {σ : Type} [Host σ] {host : σ} {doc : String} {snapshot : Snapshot}
    (h : Host.snapshot? host doc = some snapshot) :
    Host.text? host doc = some snapshot.text ∧
      Host.hasSelection host doc = snapshot.hasSelection ∧
      ∃ cursor, Host.cursor? host doc = some cursor ∧
        min cursor snapshot.text.toList.length = snapshot.cursor := by
  rw [Host.snapshot?] at h
  obtain ⟨text, ht, h⟩ := Option.bind_eq_some_iff.1 h
  obtain ⟨cursor, hc, h⟩ := Option.bind_eq_some_iff.1 h
  obtain rfl := Option.some.inj h
  exact ⟨ht, rfl, cursor, hc, rfl⟩

namespace Session

variable {σ : Type} [Host σ] {s : Session (Recorded σ)} {doc text : String} {cursor : Nat}

/-- With folding on and nothing selected, the host is told to move the cursor where a click puts
it. -/
theorem clicks_eq (ht : Host.text? s.host doc = some text)
    (hc : Host.cursor? s.host doc = some cursor) (unselected : Host.hasSelection s.host doc = false)
    (on : (s.togglesOnTrack doc).folding = true) :
    s.clicks doc .mouse =
      ((Span.clicked? text cursor (s.store.stateOf doc).expanded).map (.setCursor doc)).toList := by
  have target : (s.renew doc (s.togglesOnTrack doc)).clickTarget? doc =
      Span.clicked? text cursor (s.store.stateOf doc).expanded := by
    have expanded : ((s.renew doc (s.togglesOnTrack doc)).store.stateOf doc).expanded =
        (s.store.stateOf doc).expanded := congrArg (·.expanded) (stateOf_renew ..)
    have shown : (s.renew doc (s.togglesOnTrack doc)).host = s.host := rfl
    rw [clickTarget?, togglesOf_renew, expanded, shown, on, unselected, ht, hc]
    rfl
  rw [clicks, if_pos rfl, target]

/-- A click that has moved the cursor, by a host that just moves it, shows it where it was put. -/
theorem snapshot?_clicks (ht : Host.text? s.host doc = some text)
    (hc : Host.cursor? s.host doc = some cursor) (unselected : Host.hasSelection s.host doc = false)
    {target : Option Nat}
    (obeys : ∀ offset, target = some offset → Host.view (Host.perform s.host (.setCursor doc offset))
      doc = { Host.view s.host doc with cursor? := some offset }) :
    Host.snapshot? ((target.map (.setCursor doc)).toList.foldl Host.perform s.host) doc =
      some (.ofCursor text (target.getD cursor) false) := by
  cases target with
  | none =>
    show Host.snapshot? s.host doc = _
    rw [Host.snapshot?, ht, hc, unselected]
    rfl
  | some offset =>
    have moved := obeys offset rfl
    have text' : Host.text? (Host.perform s.host (.setCursor doc offset)) doc = some text :=
      (congrArg Host.View.text? moved).trans ht
    have cursor' : Host.cursor? (Host.perform s.host (.setCursor doc offset)) doc = some offset :=
      congrArg Host.View.cursor? moved
    have unselected' : Host.hasSelection (Host.perform s.host (.setCursor doc offset)) doc = false :=
      (congrArg Host.View.hasSelection moved).trans unselected
    show Host.snapshot? (Host.perform s.host (.setCursor doc offset)) doc = _
    rw [Host.snapshot?, text', cursor', unselected']
    rfl

/-- What a click does in a document that the host shows with this text and cursor: it moves the
cursor, and the document is painted and left in a state in which the attribute that the cursor
touches is expanded. -/
theorem handle_click (steady : Host.Steady σ) (live : s.isLive doc = true)
    (ht : Host.text? s.host doc = some text) (hc : Host.cursor? s.host doc = some cursor)
    (unselected : Host.hasSelection s.host doc = false)
    (on : (s.togglesOnTrack doc).folding = true) {target : Option Nat}
    (clicked : Span.clicked? text cursor (s.store.stateOf doc).expanded = target)
    (obeys : ∀ offset, target = some offset → Host.view (Host.perform s.host (.setCursor doc offset))
      doc = { Host.view s.host doc with cursor? := some offset }) :
    let snapshot := Snapshot.ofCursor text (target.getD cursor) false
    let once := s.handle (.cursorMoved doc .mouse)
    once.isLive doc = true ∧ Host.snapshot? once.host doc = some snapshot ∧
      (once.store.get? doc).map (fun d => (d.toggles, d.expanded)) =
        some (s.togglesOnTrack doc, snapshot.touched.map (·.range)) ∧
      ∃ calls, once.host.callsSince s.host =
          calls ++ (target.map (HostCall.setCursor doc)).toList ∧
        (∀ c ∈ calls, c.movesCursor = false) ∧
        lastPainted? calls doc .folded = some snapshot.folded := by
  intro snapshot once
  have told := clicks_eq ht hc unselected on
  rw [clicked] at told
  obtain ⟨s₁, hs⟩ : ∃ s₁, s₁ = (s.onDebouncer (·.cancel doc)).tellAll (s.clicks doc .mouse) :=
    ⟨_, rfl⟩
  have visited : once = s₁.visit doc (s.togglesOnTrack doc) := hs ▸ cursorMoved_eq live .mouse
  have shown : Host.snapshot? s₁.host doc = some snapshot := by
    rw [hs, told]
    exact snapshot?_clicks ht hc unselected obeys
  obtain ⟨calls, grown, still, folded⟩ := calls_folded_visit shown on rfl
  rw [visited]
  refine ⟨?_, ?_, ?_, calls, ?_, still, folded⟩
  · rw [isLive, isTemplate, language_visit, isOpen_visit _ _ _ steady.recorded, hs]
    show (s.isTemplate doc && Host.isOpen ((s.clicks doc .mouse).foldl Host.perform s.host) doc) =
      true
    rw [steady.recorded.isOpen_foldl]
    exact live
  · rw [snapshot?_visit _ _ _ steady.recorded, shown]
  · rw [visit_eq shown, tellAll_store, onStore, Store.get?_change, if_pos rfl, Option.map_some,
      stateAfter, Snapshot.expansion_eq on rfl]
  · refine Recorded.callsSince_eq (grown.trans ?_)
    rw [hs, calls_tellAll, told, List.append_assoc]
    cases target <;> rfl

/-- A click in a live document, with folding on and nothing selected, whose host just moves the
cursor when it is told to: no folded region touches the cursor then, and those attributes are folded
that it does not touch. The cursor was moved at most once, to the start of the value of an attribute
that the click touched and that was not expanded. The same click again moves no cursor and folds the
same regions. -/
theorem click_settles (steady : Host.Steady σ) (live : s.isLive doc = true)
    (ht : Host.text? s.host doc = some text) (hc : Host.cursor? s.host doc = some cursor)
    (unselected : Host.hasSelection s.host doc = false)
    (on : (s.togglesOnTrack doc).folding = true)
    (obeys : ∀ offset, Host.view (Host.perform s.host (.setCursor doc offset)) doc =
      { Host.view s.host doc with cursor? := some offset }) :
    let once := s.handle (.cursorMoved doc .mouse)
    let twice := once.handle (.cursorMoved doc .mouse)
    let attributes := Span.scan text [.classAttribute]
    ∃ cursor' regions, Host.cursor? once.host doc = some cursor' ∧
      lastPainted? (once.host.callsSince s.host) doc .folded = some regions ∧
      regions = (attributes.filter fun a => !a.range.touches (min cursor' text.toList.length)).map
        (fun a => .folded text a.range) ∧
      (∀ r ∈ regions, r.range.touches cursor' = false) ∧
      ((once.host.callsSince s.host).filter (·.movesCursor) = [] ∨
        ∃ a ∈ attributes, ∃ v, a.value? = some v ∧ a.range.touches cursor = true ∧
          (s.store.stateOf doc).expanded ≠ some a.range ∧ cursor' = v.range.start ∧
          (once.host.callsSince s.host).filter (·.movesCursor) = [.setCursor doc v.range.start]) ∧
      (twice.host.callsSince once.host).filter (·.movesCursor) = [] ∧
      lastPainted? (twice.host.callsSince once.host) doc .folded = some regions := by
  intro once twice attributes
  obtain ⟨target, clicked⟩ : ∃ target,
      Span.clicked? text cursor (s.store.stateOf doc).expanded = target := ⟨_, rfl⟩
  obtain ⟨live', shown, state, calls, since, still, folded⟩ :=
    handle_click steady live ht hc unselected on clicked fun offset _ => obeys offset
  obtain ⟨ht', unselected', cursor', hc', cut⟩ := Host.of_snapshot? shown
  have one := Span.landed_unique text cursor (s.store.stateOf doc).expanded
  rw [Span.landed, clicked] at one
  -- the second click finds the cursor where the first one left it, and its attribute expanded
  obtain ⟨d, hd, left⟩ := Option.map_eq_some_iff.1 state
  obtain ⟨toggles, expanded⟩ := Prod.mk.inj left
  have on' : (once.togglesOnTrack doc).folding = true := by
    rw [togglesOnTrack, hd]
    exact (congrArg Toggles.folding toggles).trans on
  have settled : Span.clicked? text cursor' (once.store.stateOf doc).expanded = none := by
    rw [Store.stateOf_of_get? hd, expanded]
    exact Span.clicked?_of_unique one cut
  obtain ⟨-, -, -, calls', since', still', folded'⟩ :=
    handle_click steady live' ht' hc' unselected' on' settled fun _ moved =>
      absurd moved.symm (Option.some_ne_none _)
  have same : Snapshot.ofCursor text cursor' false =
      Snapshot.ofCursor text (target.getD cursor) false := Snapshot.ofCursor_congr cut
  have moves (calls : List HostCall) (still : ∀ c ∈ calls, c.movesCursor = false)
      (target : Option Nat) : (calls ++ (target.map (HostCall.setCursor doc)).toList).filter
        (·.movesCursor) = (target.map (HostCall.setCursor doc)).toList := by
    rw [List.filter_append, List.filter_eq_nil_iff.2 fun c hc => ne_true_of_eq_false (still c hc)]
    cases target <;> rfl
  have untouched : (Snapshot.ofCursor text (target.getD cursor) false).folded =
      (attributes.filter fun a => !a.range.touches (min cursor' text.toList.length)).map
        fun a => .folded text a.range := cut ▸ Snapshot.folded_of_unique one
  refine ⟨cursor', _, hc', ?_, untouched, ?_, ?_, ?_, ?_⟩
  · rw [since, lastPainted?_append, folded]
    rfl
  · rw [untouched]
    refine List.forall_mem_map.2 fun a ha => Bool.eq_false_iff.2 fun touched => ?_
    obtain ⟨ha, other⟩ := List.mem_filter.1 ha
    have := (Span.located_of_mem_scan text _ ha).stop_le
    have inside := (TextRange.touches_iff.1 touched).2
    rw [Nat.min_eq_left (Nat.le_trans inside this), show a.range.touches cursor' = true from touched]
      at other
    cases other
  · rw [since, moves calls still]
    cases target with
    | none => exact .inl rfl
    | some offset =>
      obtain ⟨a, ha, v, hv, touched, collapsed, rfl, inside⟩ :=
        Span.exists_of_clicked?_eq_some clicked
      have cut : min cursor' text.toList.length = min v.range.start text.toList.length := cut
      exact .inr ⟨a, ha, v, hv, touched, collapsed, by omega, rfl⟩
  · rw [since', moves calls' still']
    rfl
  · rw [since', lastPainted?_append, folded']
    exact congrArg (fun snapshot : Snapshot => some snapshot.folded) same

/-- A template with a class attribute, whose cursor stands before it. -/
def oneAttribute : Workspace :=
  .ofDocuments (.insert .empty "a.erb" ⟨some "<p class=\"a b\">", some 0, false⟩) false

/-- The attribute is folded, and then clicked in: the first click puts the cursor at the start of
its value and unfolds it, and the second one changes nothing. -/
theorem click_unfolds_attribute :
    let s := (fresh oneAttribute .default).run [.event (.toggle "a.erb" .folding),
      .change (·.openDocument "a.erb" ⟨some "<p class=\"a b\">", some 5, false⟩)]
    let once := s.handle (.cursorMoved "a.erb" .mouse)
    let twice := once.handle (.cursorMoved "a.erb" .mouse)
    (lastPainted? s.host.calls "a.erb" .folded).map (·.map (·.range)) = some [⟨3, 14⟩] ∧
      Host.cursor? once.host "a.erb" = some 10 ∧
      (once.host.callsSince s.host).filter (·.movesCursor) = [.setCursor "a.erb" 10] ∧
      lastPainted? (once.host.callsSince s.host) "a.erb" .folded = some [] ∧
      (twice.host.callsSince once.host).filter (·.movesCursor) = [] ∧
      lastPainted? (twice.host.callsSince once.host) "a.erb" .folded = some [] := by
  intro s once twice
  obtain ⟨busy, isOpen, live, shown, at5, unselected, on, before⟩ :
      s.host.host.isBare = false ∧ Host.isOpen s.host.host "a.erb" = true ∧
      s.isLive "a.erb" = true ∧ Host.text? s.host "a.erb" = some "<p class=\"a b\">" ∧
      Host.cursor? s.host "a.erb" = some 5 ∧ Host.hasSelection s.host "a.erb" = false ∧
      (s.togglesOnTrack "a.erb").folding = true ∧
      (lastPainted? s.host.calls "a.erb" .folded).map (·.map (·.range)) = some [⟨3, 14⟩] := by
    decide +kernel
  obtain ⟨cursor', regions, at', folded, untouched, -, moved, still, again⟩ :=
    click_settles Workspace.steady live shown at5 unselected on
      (Workspace.view_setCursor busy isOpen)
  have at10 : Host.cursor? once.host "a.erb" = some 10 := by decide +kernel
  obtain rfl := Option.some.inj (at'.symm.trans at10)
  have none : regions = [] := by
    rw [untouched]
    decide +kernel
  subst none
  refine ⟨before, at10, ?_, folded, still, again⟩
  decide +kernel

end Session

end TemplatePaint
