import TemplatePaint.Links

/-!
# Spans that are linked by name

A context of controllers or of a frame links spans by the names that they carry.
Of each kind and range one span is linked if the list has one there that is of a
linked kind and carries one of the identifiers; it is the first such span of the
list (`Span.filter_key_gather`). The linked spans are in the order of their
ranges, those of one range in the order of the list, and nothing else is linked
(`Context.links_named`).
-/

namespace TemplatePaint

namespace Span

/-- The span carries a name with one of the identifiers as its normal form. -/
def Carries (s : Span) (identifiers : List String) : Prop :=
  ∃ n ∈ s.names, normalize n.text ∈ identifiers

instance (s : Span) (identifiers : List String) : Decidable (s.Carries identifiers) :=
  inferInstanceAs (Decidable (∃ n ∈ s.names, normalize n.text ∈ identifiers))

theorem namesAny_iff {s : Span} {identifiers : List String} :
    s.namesAny identifiers = true ↔ s.Carries identifiers := by
  simp [namesAny, Carries]

/-! ## Gathering -/

theorem le_trans (s t u : Span) (h : s.le t = true) (h' : t.le u = true) : s.le u = true :=
  TextRange.le_trans _ _ _ h h'

theorem le_total (s t : Span) : s.le t = true ∨ t.le s = true := TextRange.le_total _ _

/-- Spans of one range may stand in any order. -/
theorem le_of_range_eq {s t : Span} (same : s.range = t.range) : s.le t = true := by
  show s.range.le t.range = true
  rw [same, TextRange.le_iff]
  omega

variable {spans : List Span}

/-- Gathered spans are in the order of their ranges. -/
theorem pairwise_gather (spans : List Span) : (gather spans).Pairwise (le · · = true) :=
  pairwise_sortBy le_trans le_total _

/-- Of each kind and range, the first span is gathered. -/
theorem filter_key_gather (spans : List Span) (kind : SpanKind) (range : TextRange) :
    (gather spans).filter (fun s => s.kind = kind ∧ s.range = range) =
      (spans.find? fun s => s.kind = kind ∧ s.range = range).toList := by
  have tied (s t : Span) (hs : decide (s.kind = kind ∧ s.range = range) = true)
      (ht : decide (t.kind = kind ∧ t.range = range) = true) : le s t = true := by
    simp only [decide_eq_true_eq] at hs ht
    exact le_of_range_eq (hs.2.trans ht.2.symm)
  have key (s : Span) :
      decide (s.kind = kind ∧ s.range = range) = decide ((s.range, s.kind) = (range, kind)) := by
    simp [and_comm]
  rw [gather, filter_sortBy tied]
  simp only [key]
  exact filter_distinctBy _ spans (range, kind)

/-- Gathered spans of one range stay in the order of the list. -/
theorem sublist_filter_gather (spans : List Span) (range : TextRange) :
    ((gather spans).filter (·.range = range)).Sublist spans := by
  have tied (s t : Span) (hs : decide (s.range = range) = true)
      (ht : decide (t.range = range) = true) : le s t = true := by
    simp only [decide_eq_true_eq] at hs ht
    exact le_of_range_eq (hs.trans ht.symm)
  rw [gather, filter_sortBy tied]
  exact List.filter_sublist.trans (sublist_distinctBy _ spans)

end Span

/-! ## Links by name -/

/-- The links are the spans of a list that are of some kinds and carry one of the identifiers, and
nothing else. -/
structure Links.Named (spans : List Span) (kinds : List SpanKind) (identifiers : List String)
    (links : Links) : Prop where
  /-- Linked spans are in the order of their starts, and of their stops among those of one start. -/
  sorted : links.spans.Pairwise fun s t => s.range.start < t.range.start ∨
    s.range.start = t.range.start ∧ s.range.stop ≤ t.range.stop
  /-- Linked spans of one range are in the order of the list. -/
  stable (range : TextRange) : (links.spans.filter (·.range = range)).Sublist spans
  /-- Of each kind and range, the first span of the list that is meant is linked, and no other. -/
  first (kind : SpanKind) (range : TextRange) :
    links.spans.filter (fun s => s.kind = kind ∧ s.range = range) =
      (spans.find? fun s =>
        s.kind = kind ∧ s.range = range ∧ kind ∈ kinds ∧ s.Carries identifiers).toList
  byModifier : links.byModifier = []
  exact : links.exact = []

/-- What belongs to controllers, and what belongs to a frame, is linked by name. -/
theorem Context.links_named (spans : List Span) :
    (∀ primary names, Links.Named spans
      [.controllerDeclaration, .action, .controllerReference] names
      ((Context.controllers primary names).links spans)) ∧
    ∀ primary id, Links.Named spans [.frameDeclaration, .frameReference] [id]
      ((Context.frame primary id).links spans) := by
  have named (kinds : List SpanKind) (identifiers : List String) :
      Links.Named spans kinds identifiers (Links.ofNames spans kinds identifiers) := by
    refine ⟨?_, fun range => ?_, fun kind range => ?_, rfl, rfl⟩
    · exact (Span.pairwise_gather _).imp TextRange.le_iff.1
    · exact (Span.sublist_filter_gather _ range).trans List.filter_sublist
    · have meant (s : Span) : ((kinds.contains s.kind && s.namesAny identifiers) = true ∧
          decide (s.kind = kind ∧ s.range = range) = true) ↔
            s.kind = kind ∧ s.range = range ∧ kind ∈ kinds ∧ s.Carries identifiers := by
        rw [Bool.and_eq_true, List.contains_iff_mem, Span.namesAny_iff, decide_eq_true_iff]
        constructor
        · rintro ⟨⟨linked, carries⟩, rfl, same⟩
          exact ⟨rfl, same, linked, carries⟩
        · rintro ⟨rfl, same, linked, carries⟩
          exact ⟨⟨linked, carries⟩, rfl, same⟩
      show (Span.gather (spans.filter _)).filter _ = _
      rw [Span.filter_key_gather, List.find?_filter]
      simp only [meant]
  exact ⟨fun _ names => named _ names, fun _ id => named _ [id]⟩

/-- A reference that comes first in the list but names another frame does not stand in the way of
one with the same range. -/
example :
    let named (name : String) : Span := ⟨.frameReference, ⟨4, 9⟩, .ident ⟨name, ⟨6, 8⟩⟩⟩
    let outer : Span := ⟨.frameDeclaration, ⟨2, 12⟩, .ident ⟨"My_List", ⟨3, 8⟩⟩⟩
    ((Context.frame outer "my-list").links [named "other", named "my-list", outer]).spans =
      [outer, named "my-list"] := by
  decide +kernel

end TemplatePaint
