import TemplatePaint.Proofs.Span.Located
import TemplatePaint.Sorted

/-!
# The order of a scan

The matches of a scan are taken in the order of their starts
(`Span.pairwise_start_heads`), and each gives its spans where it is taken. Only a
class attribute that is split gives spans that start behind it, its classes, and
a match that starts inside the attribute is taken after it. So a scan is out of
order just if a span of another kind starts inside a class attribute and before
one of its classes (`Span.scan_ordered_iff`), as an embedded tag between two
classes does (`Span.scan_not_ordered_of_tag`). Spans that start together are in
the order in which the table lists their kinds (`Span.pairwise_ties_scan`).
-/

namespace TemplatePaint

variable {text : String} {kinds : List SpanKind}

/-! ## Matches that start together -/

/-- Every rule's pattern names its first character, and only that of class attributes is a `c`. -/
theorem Rule.exists_lead {rule : Rule} (h : rule ∈ table) :
    ∃ c, rule.pattern.lead = some c ∧ (c = 'c' ↔ rule.kind = .classAttribute) := by
  have all : ∀ e ∈ table.map fun rule => (rule.kind, rule.pattern.lead),
      e.2.isSome = true ∧ (e.2 = some 'c' ↔ e.1 = .classAttribute) := by decide
  obtain ⟨named, only⟩ := all _ (List.mem_map_of_mem h)
  obtain ⟨c, first⟩ := Option.isSome_iff_exists.1 named
  refine ⟨c, first, ?_⟩
  rw [← only, show rule.pattern.lead = some c from first, Option.some.injEq]

/-- A class attribute starts together with no match of another kind. -/
theorem Head.IsSought.start_ne {chars : List Char} {h g : Head chars} (sought : h.IsSought)
    (sought' : g.IsSought) (split : h.rule.kind = .classAttribute)
    (other : g.rule.kind ≠ .classAttribute) : h.start ≠ g.start := by
  intro same
  obtain ⟨mem, _, found⟩ := sought
  obtain ⟨mem', _, found'⟩ := sought'
  obtain ⟨c, first, only⟩ := Rule.exists_lead mem
  obtain ⟨d, first', only'⟩ := Rule.exists_lead mem'
  have begins := Pattern.head?_of_matchAt first (Rule.matchAt_of_seek found)
  have begins' := Pattern.head?_of_matchAt first' (Rule.matchAt_of_seek found')
  rw [← Place.ext_offset same, begins, Option.some.injEq] at begins'
  exact other (only'.1 (begins' ▸ only.2 split))

/-- The place of a kind in the order in which the table lists the kinds. -/
def SpanKind.place (kind : SpanKind) : Nat := (Rule.table.map (·.kind)).idxOf kind

theorem Rule.pairwise_place_table : table.Pairwise fun a b => a.kind.place ≤ b.kind.place := by
  have kinds : (table.map (·.kind)).Pairwise fun a b => a.place ≤ b.place := by decide
  exact (List.pairwise_map (R := fun a b : SpanKind => a.place ≤ b.place)).1 kinds

/-- Of heads that are listed in an order of their rules, those that start together are taken in this
order. -/
theorem Head.pairwise_ties_merge {chars : List Char} {R : Rule → Rule → Prop}
    {heads : List (Head chars)} (listed : heads.Pairwise fun h g => R h.rule g.rule) :
    (merge heads).Pairwise fun h g => h.start = g.start → R h.rule g.rule := by
  fun_induction merge heads with
  | case1 => exact .nil
  | case2 heads taken first lt ih =>
    have resumed : (advance taken heads).Pairwise fun h g => R h.rule g.rule := by
      refine List.pairwise_filterMap.2 (listed.imp fun before h hh g hg => ?_)
      rw [rule_of_resume hh, rule_of_resume hg]
      exact before
    refine List.pairwise_cons.2 ⟨fun f hf => ?_, ih resumed⟩
    refine (forall_mem_merge (P := fun g => taken.start ≤ g.start ∧
      (taken.start = g.start → R taken.rule g.rule)) ?_ ?_ f hf).2
    · rintro _ h g ⟨le, tied⟩ hg
      have le' := start_le_of_resume hg
      refine ⟨Nat.le_trans le le', fun same => ?_⟩
      rw [rule_of_resume hg]
      exact tied (by omega)
    · intro g resumes
      obtain ⟨h, hh, hg⟩ := List.mem_filterMap.1 resumes
      have le := le_of_earliest first hh
      have le' := start_le_of_resume hg
      refine ⟨Nat.le_trans le le', fun same => ?_⟩
      -- the head that is taken goes on behind itself, and of the others those before it start later
      obtain ⟨front, back, rfl, before, -⟩ := earliest_eq_some_iff.1 first
      rw [rule_of_resume hg]
      rcases List.mem_append.1 hh with front | back
      · have := before h front
        omega
      · rcases List.mem_cons.1 back with rfl | back
        · rw [resume, if_pos ⟨rfl, lt⟩] at hg
          have := le_start_of_seek hg
          unfold stop at lt
          omega
        · exact (List.pairwise_cons.1 (List.pairwise_append.1 listed).2.1).1 h back
  | case3 => exact List.pairwise_singleton _ _

namespace Span

/-! ## Spans of one match -/

/-- What a located span is expanded to comes in the order of its starts. -/
theorem pairwise_start_expand {s : Span} (h : s.Located text) :
    (expand kinds s).Pairwise fun t u => t.range.start ≤ u.range.start := by
  have classes : s.modifiedClasses.Pairwise fun t u => t.range.start ≤ u.range.start :=
    (pairwise_modifiedClasses h).imp_of_mem fun ht _ before =>
      Nat.le_trans (Nat.le_of_lt (located_modifiedClasses h ht).1.start_lt_stop) before
  by_cases split : .classToken ∈ kinds ∧ s.kind = .classAttribute
  · rw [expand_of_split split.1 split.2]
    split
    · exact List.pairwise_cons.2 ⟨fun t ht =>
        (TextRange.encloses_iff.1 (located_modifiedClasses h ht).2).1, classes⟩
    · exact classes
  · rw [expand_of_not_split fun asked same => split ⟨asked, same⟩]
    exact List.pairwise_singleton _ _

/-! ## Spans of several matches -/

/-- The class attributes of a text are found by the scan for any kinds that splits them. -/
theorem mem_scan_classAttribute_iff (asked : .classToken ∈ kinds) {a : Span} :
    a ∈ scan text [.classAttribute] ↔
      ∃ h ∈ heads text kinds, h.rule.kind = .classAttribute ∧ h.span = a := by
  have taken : (heads text kinds).filter (·.rule.kind == .classAttribute) =
      Head.plain (Rule.ofKind .classAttribute) (Place.first text.toList) := filter_heads asked
  have alone : (heads text [.classAttribute]).filter (·.rule.kind == .classAttribute) =
      Head.plain (Rule.ofKind .classAttribute) (Place.first text.toList) :=
    filter_heads (List.mem_singleton_self SpanKind.classAttribute)
  have own : ∀ h ∈ heads text [.classAttribute], (h.rule.kind == .classAttribute) = true := by
    intro h hm
    simpa using serves_iff.1 (List.mem_filter.1 (serves_of_mem_heads hm)).2
  rw [List.filter_eq_self.2 own, ← taken] at alone
  have whole (s : Span) : expand [.classAttribute] s = [s] :=
    expand_of_not_split fun asked => absurd asked (by decide)
  rw [scan_eq, alone, List.mem_flatMap]
  simp only [whole, List.mem_filter, List.mem_singleton, beq_iff_eq, and_assoc, eq_comm (a := a)]

/-- A scan is in the order of the starts just if, where class tokens are asked for, no span that is
neither a class attribute nor a class starts inside a class attribute and before one of its classes
with modifiers. -/
theorem scan_ordered_iff (text : String) (kinds : List SpanKind) :
    ((scan text kinds).Pairwise fun s t => s.range.start ≤ t.range.start) ↔
      (.classToken ∈ kinds → ∀ a ∈ scan text [.classAttribute], ∀ c ∈ a.modifiedClasses,
        ∀ s ∈ scan text kinds, s.kind ≠ .classAttribute → s.kind ≠ .classToken →
          ¬ (a.range.start < s.range.start ∧ s.range.start < c.range.start)) := by
  constructor
  · intro ordered asked a ha c hc s hs other token ⟨behind, before⟩
    rw [scan_eq, List.pairwise_flatMap] at ordered
    rw [scan_eq] at hs
    obtain ⟨h, hm, split, rfl⟩ := (mem_scan_classAttribute_iff asked).1 ha
    obtain ⟨g, gm, hg⟩ := List.mem_flatMap.1 hs
    obtain rfl : s = g.span := (mem_expand hg).resolve_right fun split =>
      token (kind_of_mem_modifiedClasses split.2)
    have hc : c ∈ expand kinds h.span := by
      rw [expand_of_split asked split]
      exact List.mem_append_right _ hc
    -- the attribute is taken before the match that starts inside it, and its classes with it
    have le := rel_of_key_lt (pairwise_start_heads text kinds) ordered.2 hm gm behind c hc _ hg
    exact Nat.not_lt_of_le le before
  · intro apart
    rw [scan_eq, List.pairwise_flatMap]
    refine ⟨fun h hm => pairwise_start_expand (located_span (isSought_of_mem_heads hm)), ?_⟩
    refine ((pairwise_start_heads text kinds).and (pairwise_heads text kinds)).imp_of_mem ?_
    intro h g hm gm ⟨le, behind⟩ s hs t ht
    obtain ⟨-, inside', -⟩ := located_of_mem_heads gm ht
    refine Nat.le_trans ?_ (TextRange.encloses_iff.1 inside').1
    obtain ⟨located, inside, -⟩ := located_of_mem_heads hm hs
    rcases mem_expand hs with rfl | ⟨⟨asked, split⟩, hc⟩
    · exact le
    by_cases same : g.rule.kind = .classAttribute
    · have before : h.stop ≤ g.start := behind (split.trans same.symm)
      exact Nat.le_trans (Nat.le_of_lt located.start_lt_stop)
        (Nat.le_trans (TextRange.encloses_iff.1 inside).2 before)
    · have sought := isSought_of_mem_heads gm
      have lt : h.start < g.start :=
        Nat.lt_of_le_of_ne le ((isSought_of_mem_heads hm).start_ne sought split same)
      refine Nat.le_of_not_lt fun before => ?_
      refine apart asked h.span ((mem_scan_classAttribute_iff asked).2 ⟨h, hm, split, rfl⟩) s hc
        g.span ?_ same (kind_ne_classToken sought.1) ⟨lt, before⟩
      rw [scan_eq]
      refine List.mem_flatMap.2 ⟨g, gm, ?_⟩
      rw [expand_of_not_split fun _ => same]
      exact List.mem_singleton_self _

/-- An embedded tag between two classes starts before the second and is listed behind it. -/
theorem scan_not_ordered_of_tag : ¬ ∀ (text : String) (kinds : List SpanKind),
    (scan text kinds).Pairwise fun s t => s.range.start ≤ t.range.start := by
  intro ordered
  have := ordered "class=\"a:b <%x%> c:d\"" [.classToken, .script]
  revert this
  decide +kernel

/-! ## Spans that start together -/

/-- Spans that start together, where no classes are asked for, are in the order of their kinds. -/
theorem pairwise_ties_scan (text : String) (whole : .classToken ∉ kinds) :
    (scan text kinds).Pairwise fun s t =>
      s.range.start = t.range.start → s.kind.place ≤ t.kind.place := by
  have sought : ((Rule.table.filter (·.serves kinds)).filterMap
      (Head.seek · (Place.first text.toList))).Pairwise fun h g =>
        h.rule.kind.place ≤ g.rule.kind.place := by
    refine List.pairwise_filterMap.2 ((Rule.pairwise_place_table.filter _).imp ?_)
    intro rule rule' le h hh g hg
    rw [(Head.seek_eq_some_iff.1 hh).1, (Head.seek_eq_some_iff.1 hg).1]
    exact le
  have single : scan text kinds = (heads text kinds).map Head.span := by
    rw [scan_eq, List.map_eq_flatMap]
    exact List.flatMap_congr fun h _ => expand_of_not_split fun asked => absurd asked whole
  rw [single]
  exact List.pairwise_map.2 (Head.pairwise_ties_merge
    (R := fun rule rule' => rule.kind.place ≤ rule'.kind.place) sought)

end Span

end TemplatePaint
