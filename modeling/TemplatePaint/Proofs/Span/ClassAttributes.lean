import TemplatePaint.Links
import TemplatePaint.Proofs.Span.Located

/-!
# Class attributes and cursors

The class attributes of a text come one after the other, so two that a cursor
touches meet at it (`Span.eq_or_meet`). Each has a value that starts inside it
(`Span.exists_value`), so a cursor at the start of the value touches no other
attribute.

The classes of a text are the words of these values. Between two of them is at
least a blank or a quote (`Span.pairwise_allClasses`), so a cursor touches at
most one, which is the one that the context of the cursor is about
(`Context.touchedClass_eq_some_iff`).
-/

namespace TemplatePaint

variable {text : String} {a b : Span}

theorem Rule.captureOffset?_classList : classList.captureOffset? = some 7 := by decide

theorem Rule.minLength_of_mem_captures_classList {q : Pattern} (h : q ∈ classList.captures) :
    q.minLength = 1 := by
  have all : ∀ n ∈ classList.captures.map Pattern.minLength, n = 1 := by decide
  exact all _ (List.mem_map_of_mem h)

namespace Span

theorem kind_of_mem_classAttributes (h : a ∈ scan text [.classAttribute]) :
    a.kind = .classAttribute :=
  List.mem_singleton.1 (kind_of_mem_scan h)

/-- A class attribute is what the rule for class attributes finds. -/
theorem exists_head_of_mem_classAttributes (h : a ∈ scan text [.classAttribute]) :
    ∃ g : Head text.toList, g.IsSought ∧ g.rule.kind = .classAttribute ∧ g.span = a := by
  have kind := kind_of_mem_classAttributes h
  obtain ⟨g, sought, same, rfl⟩ := exists_head_of_mem_scan h (by rw [kind]; decide)
  exact ⟨g, sought, same.trans kind, rfl⟩

/-- The class attributes of a text come one after the other. -/
theorem pairwise_classAttributes (text : String) :
    (scan text [.classAttribute]).Pairwise fun a b => a.range.stop ≤ b.range.start :=
  pairwise_scan_singleton text .classAttribute

theorem classAttribute_rule {rule : Rule} (mem : rule ∈ Rule.table)
    (kind : rule.kind = .classAttribute) : rule.pattern = Rule.classList ∧ rule.shape = .value := by
  have only : rule ∈ Rule.ofKind .classAttribute := List.mem_filter.2 ⟨mem, by simp [kind]⟩
  obtain rfl := List.mem_singleton.1 (show rule ∈ [_] from only)
  exact ⟨rfl, rfl⟩

/-- A class attribute has a value, which starts and stops inside it and is not empty. -/
theorem exists_value (h : a ∈ scan text [.classAttribute]) :
    ∃ v, a.value? = some v ∧ a.range.start < v.range.start ∧ v.range.start < v.range.stop ∧
      v.range.stop ≤ a.range.stop := by
  obtain ⟨g, ⟨mem, place, found⟩, kind, rfl⟩ := exists_head_of_mem_classAttributes h
  obtain ⟨pattern, shape⟩ := classAttribute_rule mem kind
  have found := Rule.matchAt_of_seek found
  rw [pattern] at found
  obtain ⟨c, captured, behind⟩ :=
    Pattern.captured_of_matchAt_captureOffset? Rule.captureOffset?_classList found
  obtain ⟨q, hq, -, nonempty, inside⟩ := Pattern.captured_of_matchAt found captured
  refine ⟨⟨String.ofList c.chars, c.range⟩, ?_, ?_, ?_, inside⟩
  · rw [Head.span, captured, Rule.span, value?, shape]
    rfl
  · exact Nat.lt_of_lt_of_le (Nat.lt_add_of_pos_right (by decide)) behind
  · rw [Rule.minLength_of_mem_captures_classList hq] at nonempty
    exact nonempty

theorem value_inside (h : a ∈ scan text [.classAttribute]) {v : Name} (hv : a.value? = some v) :
    a.range.start < v.range.start ∧ v.range.start < v.range.stop ∧ v.range.stop ≤ a.range.stop := by
  obtain ⟨w, hw, inside⟩ := exists_value h
  exact Option.some.inj (hw.symm.trans hv) ▸ inside

/-! ## Cursors -/

/-- Two class attributes that a cursor touches are the same, or meet at it. -/
theorem eq_or_meet (ha : a ∈ scan text [.classAttribute]) (hb : b ∈ scan text [.classAttribute])
    {cursor : Nat} (touched : a.range.touches cursor = true)
    (touched' : b.range.touches cursor = true) :
    a = b ∨ a.range.stop = cursor ∧ b.range.start = cursor ∨
      b.range.stop = cursor ∧ a.range.start = cursor := by
  by_cases same : a = b
  · exact .inl same
  · rw [TextRange.touches_iff] at touched touched'
    have := rel_or_rel_of_ne (pairwise_classAttributes text) ha hb same
    omega

/-- The value of only one class attribute touches a cursor. -/
theorem eq_of_values_touch (ha : a ∈ scan text [.classAttribute])
    (hb : b ∈ scan text [.classAttribute]) {v w : Name} (hv : a.value? = some v)
    (hw : b.value? = some w) {cursor : Nat} (touched : v.range.touches cursor = true)
    (touched' : w.range.touches cursor = true) : a = b := by
  have inside := value_inside ha hv
  have inside' := value_inside hb hw
  rw [TextRange.touches_iff] at touched touched'
  -- attributes that meet do so outside the value of the second
  have around : a.range.touches cursor = true := TextRange.touches_iff.2 (by omega)
  have around' : b.range.touches cursor = true := TextRange.touches_iff.2 (by omega)
  rcases eq_or_meet ha hb around around' with same | meet | meet
  · exact same
  · omega
  · omega

end Span

/-! ## Classes -/

/-- The words of a value come one after the other, with a blank between two. -/
theorem Name.pairwise_words (v : Name) :
    v.words.Pairwise fun n m => n.range.stop < m.range.start := by
  refine List.pairwise_map.2 ((pairwise_runs isBlank 0 _).imp fun before => ?_)
  simp only [Run.toName]
  omega

namespace Span

/-- All classes of a text, in order. -/
def allClasses (text : String) : List Span := (scan text [.classAttribute]).flatMap classes

variable {t u : Span}

theorem classes_eq (ha : a ∈ scan text [.classAttribute]) {v : Name} (hv : a.value? = some v) :
    a.classes = v.classTokens := by
  rw [classes, kind_of_mem_classAttributes ha, hv]
  rfl

/-- A class is a word of the value of a class attribute. -/
theorem mem_allClasses_iff : t ∈ allClasses text ↔
    ∃ a ∈ scan text [.classAttribute], ∃ v, a.value? = some v ∧ t ∈ v.classTokens := by
  rw [allClasses, List.mem_flatMap]
  refine exists_congr fun a => and_congr_right fun ha => ?_
  obtain ⟨v, hv, -⟩ := exists_value ha
  rw [classes_eq ha hv]
  refine ⟨fun ht => ⟨v, hv, ht⟩, ?_⟩
  rintro ⟨w, hw, ht⟩
  exact Option.some.inj (hv.symm.trans hw) ▸ ht

/-- A class is located in the text, inside the value. -/
theorem located_of_mem_classTokens (ha : a ∈ scan text [.classAttribute]) {v : Name}
    (hv : a.value? = some v) (ht : t ∈ v.classTokens) :
    t.Located text ∧ v.range.encloses t.range = true := by
  have located := located_of_mem_scan text _ ha
  refine ⟨(located_classTokens located hv ht).1, ?_⟩
  obtain ⟨word, mem, rfl⟩ := List.mem_map.1 ht
  exact (Name.row_words (located.value v hv).2).inside word mem

theorem located_of_mem_allClasses (ht : t ∈ allClasses text) : t.Located text := by
  obtain ⟨a, ha, v, hv, ht⟩ := mem_allClasses_iff.1 ht
  exact (located_of_mem_classTokens ha hv ht).1

/-- The classes of a text come one after the other, with something between two. -/
theorem pairwise_allClasses (text : String) :
    (allClasses text).Pairwise fun t u => t.range.stop < u.range.start := by
  refine List.pairwise_flatMap.2 ⟨fun a ha => ?_, ?_⟩
  · obtain ⟨v, hv, -⟩ := exists_value ha
    rw [classes_eq ha hv]
    exact List.pairwise_map.2 v.pairwise_words
  · refine (pairwise_classAttributes text).imp_of_mem fun ha hb before t ht u hu => ?_
    obtain ⟨v, hv, inside⟩ := exists_value ha
    obtain ⟨w, hw, inside'⟩ := exists_value hb
    rw [classes_eq ha hv] at ht
    rw [classes_eq hb hw] at hu
    have within := TextRange.encloses_iff.1 (located_of_mem_classTokens ha hv ht).2
    have within' := TextRange.encloses_iff.1 (located_of_mem_classTokens hb hw hu).2
    omega

/-- A cursor touches only one class. -/
theorem eq_of_classes_touch (ht : t ∈ allClasses text) (hu : u ∈ allClasses text) {cursor : Nat}
    (touched : t.range.touches cursor = true) (touched' : u.range.touches cursor = true) : t = u := by
  refine Classical.byContradiction fun other => ?_
  rw [TextRange.touches_iff] at touched touched'
  have := rel_or_rel_of_ne (pairwise_allClasses text) ht hu other
  omega

end Span

/-- The class that a cursor is on is the one that it touches. -/
theorem Context.touchedClass_eq_some_iff {spans : List Span}
    (attributes : spans.filter (·.kind == .classAttribute) = Span.scan text [.classAttribute])
    {cursor : Nat} {t : Span} :
    touchedClass spans cursor = some t ↔
      t ∈ Span.allClasses text ∧ t.range.touches cursor = true := by
  rw [touchedClass, attributes]
  constructor
  · intro h
    obtain ⟨v, first, found⟩ := Option.bind_eq_some_iff.1 h
    obtain ⟨a, ha, hv⟩ := List.mem_filterMap.1 (List.mem_of_find?_eq_some first)
    exact ⟨Span.mem_allClasses_iff.2 ⟨a, ha, v, hv, List.mem_of_find?_eq_some found⟩,
      by simpa using List.find?_some found⟩
  · rintro ⟨mem, touched⟩
    obtain ⟨a, ha, v, hv, ht⟩ := Span.mem_allClasses_iff.1 mem
    have within := TextRange.encloses_iff.1 (Span.located_of_mem_classTokens ha hv ht).2
    have inside : v.range.touches cursor = true := by
      rw [TextRange.touches_iff] at touched ⊢
      omega
    obtain ⟨w, first⟩ : ∃ w, ((Span.scan text [.classAttribute]).filterMap (·.value?)).find?
        (·.range.touches cursor) = some w :=
      Option.isSome_iff_exists.1
        (List.find?_isSome.2 ⟨v, List.mem_filterMap.2 ⟨a, ha, hv⟩, inside⟩)
    obtain ⟨u, found⟩ : ∃ u, v.classTokens.find? (·.range.touches cursor) = some u :=
      Option.isSome_iff_exists.1 (List.find?_isSome.2 ⟨t, ht, touched⟩)
    have own : v = w := by
      obtain ⟨b, hb, hw⟩ := List.mem_filterMap.1 (List.mem_of_find?_eq_some first)
      obtain rfl := Span.eq_of_values_touch ha hb hv hw inside (by simpa using List.find?_some first)
      exact Option.some.inj (hv.symm.trans hw)
    have only : t = u :=
      Span.eq_of_classes_touch mem
        (Span.mem_allClasses_iff.2 ⟨a, ha, v, hv, List.mem_of_find?_eq_some found⟩) touched
        (by simpa using List.find?_some found)
    rw [first, Option.bind_some, ← own, found, only]

end TemplatePaint
