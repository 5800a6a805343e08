import TemplatePaint.Proofs.Session.Footprint

/-!
# Events of different documents commute

Of two events of different documents, it does not matter which comes first, if
the host keeps its documents apart: each finds its document as it would have
been without the other event (`Acts.sameFor`), so each does the same in either
order (`Square`), and the two orders end alike (`handle_commute`). In
particular, an event of a document leaves all that is held and shown of any
other.
-/

namespace TemplatePaint

namespace Session

variable {σ : Type} [Host σ]

/-- Two events of two documents do the same in either order: these calls for the first document, and
those for the second. -/
structure Square (s : Session σ) (a b : String) (e f : Event) (callsA callsB : List HostCall) :
    Prop where
  first : Acts a callsA s (s.handle e)
  second : Acts b callsB s (s.handle f)
  firstLater : Acts a callsA (s.handle f) ((s.handle f).handle e)
  secondLater : Acts b callsB (s.handle e) ((s.handle e).handle f)
  sameFirst : SameFor a (s.handle e) ((s.handle f).handle e)
  sameSecond : SameFor b (s.handle f) ((s.handle e).handle f)

theorem exists_square (apart : Host.Apart σ) (s : Session σ) {a b : String} (ne : a ≠ b)
    {e f : Event} (he : e.document? = some a) (hf : f.document? = some b) :
    ∃ callsA callsB, Square s a b e f callsA callsB := by
  obtain ⟨_, acts, -, -⟩ := (SameFor.refl a s).handle he
  obtain ⟨callsB, second, secondLater, sameSecond⟩ := (acts.sameFor apart ne.symm).handle hf
  obtain ⟨callsA, first, firstLater, sameFirst⟩ := (second.sameFor apart ne).handle he
  exact ⟨callsA, callsB, first, second, firstLater, secondLater, sameFirst, sameSecond⟩

namespace Square

variable {s : Session σ} {a b : String} {e f : Event} {callsA callsB : List HostCall}

theorem base (sq : Square s a b e f callsA callsB) :
    ((s.handle e).handle f).base = ((s.handle f).handle e).base :=
  calc ((s.handle e).handle f).base = (s.handle e).base := sq.secondLater.base
    _ = s.base := sq.first.base
    _ = (s.handle f).base := sq.second.base.symm
    _ = ((s.handle f).handle e).base := sq.firstLater.base.symm

/-- Of each document, the same is held after either order. -/
theorem slot (sq : Square s a b e f callsA callsB) (ne : a ≠ b) (doc : String) :
    ((s.handle e).handle f).slot doc = ((s.handle f).handle e).slot doc := by
  by_cases isA : doc = a
  · rw [isA]
    exact (sq.secondLater.others a ne).trans sq.sameFirst.slot
  by_cases isB : doc = b
  · rw [isB]
    exact sq.sameSecond.slot.symm.trans (sq.firstLater.others b ne.symm).symm
  · calc ((s.handle e).handle f).slot doc = (s.handle e).slot doc := sq.secondLater.others doc isB
      _ = s.slot doc := sq.first.others doc isA
      _ = (s.handle f).slot doc := (sq.second.others doc isB).symm
      _ = ((s.handle f).handle e).slot doc := (sq.firstLater.others doc isA).symm

theorem host (sq : Square s a b e f callsA callsB) :
    ((s.handle e).handle f).host = (callsA ++ callsB).foldl Host.perform s.host := by
  rw [sq.secondLater.host, sq.first.host, List.foldl_append]

theorem hostSwapped (sq : Square s a b e f callsA callsB) :
    ((s.handle f).handle e).host = (callsB ++ callsA).foldl Host.perform s.host := by
  rw [sq.firstLater.host, sq.second.host, List.foldl_append]

end Square

/-- The record after some calls tells which of them named a document, beside those before. -/
theorem callsNaming_of_foldl {s s' : Session (Recorded σ)} {calls : List HostCall}
    (made : s'.host = calls.foldl Host.perform s.host) (doc : String) :
    callsNaming doc s'.host.calls =
      (callsNaming doc calls).reverse ++ callsNaming doc s.host.calls := by
  have record : s'.host.calls = calls.reverse ++ s.host.calls := made ▸ s.calls_tellAll calls
  rw [record, callsNaming_append, callsNaming_reverse]

/-- An event of a document leaves what is held, shown and painted of any other. -/
theorem handle_leaves (apart : Host.Apart σ) (s : Session (Recorded σ)) {a doc : String}
    {e : Event} (he : e.document? = some a) (other : doc ≠ a) :
    (s.handle e).slot doc = s.slot doc ∧
      Host.view (s.handle e).host doc = Host.view s.host doc ∧
      ∀ g, lastPainted? (s.handle e).host.calls doc g = lastPainted? s.host.calls doc g := by
  obtain ⟨calls, acts, -, -⟩ := (SameFor.refl a s).handle he
  refine ⟨acts.others doc other, (acts.sameFor apart.recorded other).view.symm, fun g => ?_⟩
  have unnamed : callsNaming doc calls = [] := callsNaming_of_ne acts.named other
  rw [← lastPainted?_callsNaming, callsNaming_of_foldl acts.host, unnamed,
    ← lastPainted?_callsNaming doc s.host.calls]
  rfl

/-- Events of different documents commute, on a host that keeps its documents apart. In either order
they give the same back; the session holds the same afterwards, and of each document, the host shows
the same, has been told the same and has the same painted last. And an event leaves what is held of
any other document, and what is shown and painted of it. -/
theorem handle_commute (apart : Host.Apart σ) (s : Session (Recorded σ)) {a b : String}
    (ne : a ≠ b) {e f : Event} (he : e.document? = some a) (hf : f.document? = some b) :
    let ef := (s.handle e).handle f
    let fe := (s.handle f).handle e
    (s.outcome e = (s.handle f).outcome e ∧ (s.handle e).outcome f = s.outcome f) ∧
    (ef.language = fe.language ∧ ef.settings = fe.settings ∧ ef.store = fe.store ∧
      ef.debouncer = fe.debouncer ∧ ef.active = fe.active) ∧
    (∀ doc, Host.view ef.host doc = Host.view fe.host doc ∧
      callsNaming doc ef.host.calls = callsNaming doc fe.host.calls ∧
      ∀ g, lastPainted? ef.host.calls doc g = lastPainted? fe.host.calls doc g) ∧
    ∀ doc, doc ≠ a → (s.handle e).slot doc = s.slot doc ∧
      Host.view (s.handle e).host doc = Host.view s.host doc ∧
      ∀ g, lastPainted? (s.handle e).host.calls doc g = lastPainted? s.host.calls doc g := by
  intro ef fe
  obtain ⟨callsA, callsB, sq⟩ := exists_square apart.recorded s ne he hf
  have named (doc : String) :
      callsNaming doc (callsA ++ callsB) = callsNaming doc (callsB ++ callsA) :=
    callsNaming_append_comm ne sq.first.named sq.second.named doc
  have told (doc : String) : callsNaming doc ef.host.calls = callsNaming doc fe.host.calls := by
    rw [callsNaming_of_foldl sq.host, callsNaming_of_foldl sq.hostSwapped, named]
  refine ⟨⟨?_, ?_⟩, ext_of_slots sq.base (sq.slot ne), fun doc => ⟨?_, told doc, fun g => ?_⟩,
    fun doc other => s.handle_leaves apart he other⟩
  · exact (sq.second.sameFor apart.recorded ne).outcome he
  · exact ((sq.first.sameFor apart.recorded ne.symm).outcome hf).symm
  · rw [show ef.host = _ from sq.host, show fe.host = _ from sq.hostSwapped, apart.recorded,
      apart.recorded s.host (callsB ++ callsA), named]
  · rw [← lastPainted?_callsNaming, told, lastPainted?_callsNaming]

/-- Two templates, each with its cursor before a class attribute. -/
def twoTemplates : Workspace :=
  .ofDocuments ((KeyMap.empty.insert "a.erb" ⟨some "<p class=\"a b\">", some 0, false⟩).insert
    "b.erb" ⟨some "<p class=\"a b\">", some 0, false⟩) false

/-- One template is folded and edited, and clicked in; the other one becomes active. -/
def clicked : List (Step Workspace) :=
  [.event (.toggle "b.erb" .folding), .event (.edited "b.erb" 0),
    .change (·.openDocument "b.erb" ⟨some "<p class=\"a b\">", some 13, false⟩),
    .event (.activated (some "a.erb"))]

/-- Whether the click is handled before the other template is folded or after it, its cursor moves
to the start of the classes and the other template is folded, and the session is the same. -/
theorem toggle_commutes_with_click :
    let s := (fresh twoTemplates .default).run clicked
    let ef := (s.handle (.toggle "a.erb" .folding)).handle (.cursorMoved "b.erb" .mouse)
    let fe := (s.handle (.cursorMoved "b.erb" .mouse)).handle (.toggle "a.erb" .folding)
    (ef.store = fe.store ∧ ef.debouncer = fe.debouncer ∧ ef.active = fe.active) ∧
      Host.cursor? ef.host "b.erb" = Host.cursor? fe.host "b.erb" ∧
      Host.cursor? fe.host "b.erb" = some 10 ∧
      lastPainted? ef.host.calls "a.erb" .folded = lastPainted? fe.host.calls "a.erb" .folded ∧
      lastPainted? fe.host.calls "a.erb" .folded ≠ some [] := by
  intro s ef fe
  obtain ⟨-, ⟨-, -, held⟩, shown, -⟩ := handle_commute Workspace.apart s
    (by decide : "a.erb" ≠ "b.erb") (rfl : (Event.toggle "a.erb" .folding).document? = _)
    (rfl : (Event.cursorMoved "b.erb" .mouse).document? = _)
  exact ⟨held, congrArg Host.View.cursor? (shown "b.erb").1, by decide +kernel,
    (shown "a.erb").2.2 .folded, by decide +kernel⟩

end Session

end TemplatePaint
