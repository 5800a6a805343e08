import TemplatePaint.Proofs.Span.ClassAttributes

/-!
# Spans that are linked by modifiers

Modifiers are linked from classes, which a list of spans has as they are or in
the values of its class attributes. However often and in whatever order it has
classes of a text, they are taken as they stand in the text, each once
(`Links.classesOf_eq_filter`). A scan that splits the attributes leaves out the
classes without modifiers (`Span.scan_classToken`), but no link depends on
those (`Links.ofModifiers_congr`). So class attributes, their classes, and both
at once link the same (`Context.links_modifiers_scan`).
-/

namespace TemplatePaint

variable {text : String} {kinds : List SpanKind} {spans : List Span} {t : Span}

namespace Span

/-! ## The classes of a scan -/

/-- A span of a scan for several kinds is a span of the scan for its own kind. -/
theorem mem_filter_scan_iff {kind : SpanKind} :
    t ∈ (scan text kinds).filter (·.kind == kind) ↔ kind ∈ kinds ∧ t ∈ scan text [kind] := by
  by_cases asked : kind ∈ kinds
  · rw [filter_scan_eq_scan asked]
    exact (and_iff_right asked).symm
  · refine iff_of_false (fun h => ?_) (fun h => asked h.1)
    obtain ⟨mem, same⟩ := List.mem_filter.1 h
    exact asked (beq_iff_eq.1 same ▸ kind_of_mem_scan mem)

/-- The scan for classes finds those classes of the text that have modifiers. -/
theorem scan_classToken (text : String) :
    scan text [.classToken] = (allClasses text).filter (!·.names.isEmpty) := by
  have plain {kind : SpanKind} : scan text [kind] = plainScan text kind := by
    rw [← filter_scan (List.mem_singleton_self kind),
      filter_scan_eq_scan (List.mem_singleton_self kind)]
  have split : plainScan text .classToken =
      (scan text [.classAttribute]).flatMap modifiedClasses := by
    rw [plain, plainScan, plainScan, List.flatMap_assoc]
    exact List.flatMap_congr fun h _ => (List.append_nil _).symm
  rw [plain, split, allClasses, List.filter_flatMap]
  refine List.flatMap_congr fun a ha => ?_
  rw [modifiedClasses, classes, kind_of_mem_classAttributes ha]

/-- A class is among some spans as it is, or in a class attribute. -/
theorem mem_flatMap_classes_iff : t ∈ spans.flatMap classes ↔
    t ∈ spans.filter (·.kind == .classToken) ∨
      t ∈ (spans.filter (·.kind == .classAttribute)).flatMap classes := by
  simp only [List.mem_flatMap, List.mem_filter, beq_iff_eq]
  constructor
  · rintro ⟨s, hs, ht⟩
    cases kind : s.kind with
    | classToken =>
      rw [classes, kind] at ht
      exact .inl (List.mem_singleton.1 ht ▸ ⟨hs, kind⟩)
    | classAttribute => exact .inr ⟨s, ⟨hs, kind⟩, ht⟩
    | _ => simp [classes, kind] at ht
  · rintro (⟨ht, kind⟩ | ⟨s, ⟨hs, -⟩, ht⟩)
    · exact ⟨t, ht, by simp [classes, kind]⟩
    · exact ⟨s, hs, ht⟩

/-- A scan has the classes of the text if it asks for class attributes, and those with modifiers if
it asks for classes. -/
theorem mem_classes_scan_iff : t ∈ (scan text kinds).flatMap classes ↔ t ∈ allClasses text ∧
    (.classAttribute ∈ kinds ∨ .classToken ∈ kinds ∧ (!t.names.isEmpty) = true) := by
  have attributes : t ∈ ((scan text kinds).filter (·.kind == .classAttribute)).flatMap classes ↔
      .classAttribute ∈ kinds ∧ t ∈ allClasses text := by
    simp only [allClasses, List.mem_flatMap, mem_filter_scan_iff, and_assoc, exists_and_left]
  rw [mem_flatMap_classes_iff, mem_filter_scan_iff, scan_classToken, List.mem_filter, attributes]
  constructor
  · rintro (⟨asked, mem, modified⟩ | ⟨asked, mem⟩)
    · exact ⟨mem, .inr ⟨asked, modified⟩⟩
    · exact ⟨mem, .inl asked⟩
  · rintro ⟨mem, asked | ⟨asked, modified⟩⟩
    · exact .inr ⟨asked, mem⟩
    · exact .inl ⟨asked, mem, modified⟩

/-- The classes of a text have different starts, in order. -/
theorem pairwise_start_allClasses (text : String) :
    (allClasses text).Pairwise fun t u => t.range.start < u.range.start :=
  (pairwise_allClasses text).imp_of_mem fun ht _ before =>
    Nat.lt_trans (located_of_mem_allClasses ht).start_lt_stop before

end Span

namespace Links

/-! ## The classes of a list -/

section Own

variable (own : ∀ t ∈ spans.flatMap Span.classes, t ∈ Span.allClasses text)

include own

/-- Of different classes of a text, one starts before the other. -/
theorem start_lt_or_start_lt {u : Span} (ht : t ∈ spans.flatMap Span.classes)
    (hu : u ∈ spans.flatMap Span.classes) (other : t ≠ u) :
    t.range.start < u.range.start ∨ u.range.start < t.range.start :=
  rel_or_rel_of_ne (Span.pairwise_start_allClasses text) (own t ht) (own u hu) other

/-- Classes of a text have different ranges, so none is dropped. -/
theorem mem_classesOf_iff : t ∈ classesOf spans ↔ t ∈ spans.flatMap Span.classes := by
  refine (perm_sortBy _ _).mem_iff.trans (mem_distinctBy.trans ⟨List.mem_of_find?_eq_some, ?_⟩)
  refine fun ht => find?_eq_some_of_unique ht (decide_eq_true rfl) fun u hu here => ?_
  refine Classical.byContradiction fun other => ?_
  have := start_lt_or_start_lt own hu ht other
  rw [of_decide_eq_true here] at this
  omega

theorem pairwise_start_classesOf :
    (classesOf spans).Pairwise fun t u => t.range.start < u.range.start := by
  have distinct : (classesOf spans).Nodup :=
    (perm_sortBy _ _).nodup_iff.2 ((List.pairwise_map.1 (nodup_map_distinctBy _ _)).imp
      fun other same => other (congrArg Span.range same))
  have sorted : (classesOf spans).Pairwise fun t u => t.range.start ≤ u.range.start :=
    (pairwise_sortBy (by simpa using fun _ _ _ => Nat.le_trans)
      (by simpa using fun _ _ => Nat.le_total _ _) _).imp of_decide_eq_true
  refine (sorted.and distinct).imp_of_mem fun ht hu ⟨le, other⟩ => ?_
  have := start_lt_or_start_lt own ((mem_classesOf_iff own).1 ht) ((mem_classesOf_iff own).1 hu) other
  omega

/-- Whatever classes of a text a list of spans has, they are taken in their order in the text, each
once. -/
theorem classesOf_eq_filter :
    classesOf spans = (Span.allClasses text).filter (· ∈ spans.flatMap Span.classes) := by
  refine eq_of_pairwise_of_mem_iff (fun _ _ => Nat.lt_asymm) (pairwise_start_classesOf own)
    ((Span.pairwise_start_allClasses text).filter _) fun t => ?_
  rw [mem_classesOf_iff own, List.mem_filter, decide_eq_true_iff]
  exact ⟨fun ht => ⟨own t ht, ht⟩, And.right⟩

end Own

theorem classesOf_scan_eq_filter (text : String) (kinds : List SpanKind) :
    classesOf (Span.scan text kinds) =
      (Span.allClasses text).filter (· ∈ (Span.scan text kinds).flatMap Span.classes) :=
  classesOf_eq_filter fun _ ht => (Span.mem_classes_scan_iff.1 ht).1

/-- The classes of a scan that finds class attributes are those of the text. -/
theorem classesOf_scan (asked : .classAttribute ∈ kinds) :
    classesOf (Span.scan text kinds) = Span.allClasses text := by
  rw [classesOf_scan_eq_filter, List.filter_eq_self.2]
  exact fun t ht => decide_eq_true (Span.mem_classes_scan_iff.2 ⟨ht, .inl asked⟩)

/-- A scan for class attributes or for classes finds the classes of the text that have modifiers. -/
theorem filter_classesOf_scan (asked : .classAttribute ∈ kinds ∨ .classToken ∈ kinds) :
    (classesOf (Span.scan text kinds)).filter (!·.names.isEmpty) =
      (Span.allClasses text).filter (!·.names.isEmpty) := by
  rw [classesOf_scan_eq_filter, List.filter_filter]
  refine List.filter_congr fun t ht => ?_
  cases modified : !t.names.isEmpty with
  | false => rfl
  | true =>
    exact decide_eq_true
      (Span.mem_classes_scan_iff.2 ⟨ht, asked.imp_right fun split => ⟨split, modified⟩⟩)

/-! ## Classes without modifiers -/

variable (classes : List Span) (active exactKey : List String)

/-- Of classes that have modifiers, the same ones carry an active modifier as of all. -/
theorem filter_carrying : (classes.filter (!·.names.isEmpty)).filter
      (fun c => c.names.any fun name => active.contains name.text) =
    classes.filter fun c => c.names.any fun name => active.contains name.text := by
  rw [List.filter_filter]
  refine List.filter_congr fun c _ => ?_
  cases c.names <;> simp

theorem occurrences_filter :
    occurrences (classes.filter (!·.names.isEmpty)) active = occurrences classes active := by
  have names : (classes.filter (!·.names.isEmpty)).flatMap (·.names) =
      classes.flatMap (·.names) := by
    induction classes with
    | nil => rfl
    | cons c cs ih =>
      rw [List.flatMap_cons, List.filter_cons, ← ih]
      cases own : c.names <;> simp [own]
  rw [occurrences, occurrences, names]

theorem exactMatches_filter :
    exactMatches (classes.filter (!·.names.isEmpty)) active exactKey =
      exactMatches classes active exactKey := by
  rw [exactMatches, exactMatches, List.filter_filter]
  congr 2
  refine List.filter_congr fun c _ => ?_
  cases c.names <;> simp

/-- What is linked depends only on the classes that have modifiers. -/
theorem ofModifiers_congr {spans spans' : List Span}
    (same : (classesOf spans).filter (!·.names.isEmpty) =
      (classesOf spans').filter (!·.names.isEmpty)) :
    ofModifiers spans active exactKey = ofModifiers spans' active exactKey := by
  have modified (spans : List Span) : ofModifiers spans active exactKey =
      let classes := (classesOf spans).filter (!·.names.isEmpty)
      { spans := Span.gather (classes.filter fun c =>
          c.names.any fun name => active.contains name.text)
        byModifier := occurrences classes active
        exact := exactMatches classes active exactKey } := by
    dsimp only
    rw [filter_carrying, occurrences_filter, exactMatches_filter, ofModifiers]
  rw [modified, modified, same]

end Links

/-- What belongs to a class with modifiers is the same for the spans of every scan that asks for
class attributes, for classes, or for both. -/
theorem Context.links_modifiers_scan {kinds kinds' : List SpanKind}
    (asked : .classAttribute ∈ kinds ∨ .classToken ∈ kinds)
    (asked' : .classAttribute ∈ kinds' ∨ .classToken ∈ kinds') (text : String) (token : Span)
    (active exactKey : List String) :
    (Context.modifiers token active exactKey).links (Span.scan text kinds) =
      (Context.modifiers token active exactKey).links (Span.scan text kinds') :=
  Links.ofModifiers_congr active exactKey
    ((Links.filter_classesOf_scan asked).trans (Links.filter_classesOf_scan asked').symm)

/-- Two classes with the modifiers `a` and `b`, one with `b` and one without modifiers: the classes
alone, which leave out the last one, and attributes with their classes link the same three. -/
theorem Context.links_modifiers_with_and_without_attributes :
    let context : Context :=
      .modifiers (Name.classToken ⟨"a:b:x", ⟨7, 12⟩⟩) ["a", "b"] ["a", "b"]
    let text := "class=\"a:b:x y b:a:\" class=\"b:z\""
    (.classToken ∈ [SpanKind.classToken] ∧ .classAttribute ∈ [SpanKind.classToken, .classAttribute]) ∧
      context.links (Span.scan text [.classToken]) =
        context.links (Span.scan text [.classToken, .classAttribute]) ∧
      (context.links (Span.scan text [.classToken])).spans.map (·.range) =
        [⟨7, 12⟩, ⟨15, 19⟩, ⟨28, 31⟩] ∧
      (context.links (Span.scan text [.classToken])).byModifier =
        [("a", [⟨7, 9⟩, ⟨17, 19⟩]), ("b", [⟨9, 11⟩, ⟨15, 17⟩, ⟨28, 30⟩])] ∧
      (context.links (Span.scan text [.classToken])).exact = [⟨7, 11⟩, ⟨15, 19⟩] := by
  intro context text
  have alone : SpanKind.classToken ∈ [SpanKind.classToken] := by decide
  have both : SpanKind.classAttribute ∈ [SpanKind.classToken, .classAttribute] := by decide
  refine ⟨⟨alone, both⟩, Context.links_modifiers_scan (.inr alone) (.inl both) text _ _ _, ?_⟩
  decide +kernel

end TemplatePaint
