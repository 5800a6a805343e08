import TemplatePaint.Proofs.Pattern.Matches
import TemplatePaint.Proofs.Span.Plain

/-!
# Where spans and their names stand

Every span of a scan is a stretch of the text that is not empty, its value and
its names lie inside it and are what the text says there, and spans of one
kind do not overlap (`scan_located`).

Names come from four sources: a capture, the words of a value, the controllers
of an action list, the modifiers of a class. Each gives stretches of a value,
one after the other; `Name.Row.of_parts` places them in the text.
-/

namespace TemplatePaint

namespace Name

/-- The name is what the text says at its range. -/
structure Written (text : String) (name : Name) : Prop where
  start_le_stop : name.range.start ≤ name.range.stop
  stop_le : name.range.stop ≤ text.toList.length
  slice_eq : slice text name.range = name.text

/-- Names that stand in a range of the text one after the other, each with some `ending` behind it
that belongs to its range. -/
structure Row (text ending : String) (within : TextRange) (names : List Name) : Prop where
  inside : ∀ n ∈ names, within.encloses n.range = true
  nonempty : ∀ n ∈ names, n.range.start < n.range.stop
  slice_eq : ∀ n ∈ names, slice text n.range = n.text ++ ending
  pairwise : names.Pairwise fun n m => n.range.stop ≤ m.range.start

end Name

/-- The span is a stretch of the text that is not empty. Its value and its names lie inside it and
are what the text says there; the range of a modifier has a colon behind the name. -/
structure Span.Located (text : String) (s : Span) : Prop where
  start_lt_stop : s.range.start < s.range.stop
  stop_le : s.range.stop ≤ text.toList.length
  value : ∀ v, s.value? = some v → s.range.encloses v.range = true ∧ v.Written text
  names : Name.Row text (if s.kind = .classToken then ":" else "") s.range s.names

/-! ## Rows of names -/

namespace Name

variable {text : String} {v : Name}

theorem Written.length_eq (h : v.Written text) : v.text.toList.length = v.range.length := by
  have := h.stop_le
  rw [← h.slice_eq, slice, String.toList_ofList, List.length_take, List.length_drop,
    TextRange.length]
  omega

/-- A stretch of a name that is written in the text is written there too. -/
theorem Written.slice_shift (h : v.Written text) {r : TextRange} (le : r.stop ≤ v.range.length) :
    slice text (r.shift v.range.start) = slice v.text r := by
  have shifted : (r.shift v.range.start).length = r.length := by
    simp only [TextRange.shift, TextRange.length]
    omega
  have whole : v.text.toList = (text.toList.drop v.range.start).take v.range.length := by
    rw [← h.slice_eq, slice, String.toList_ofList]
  rw [slice, slice, shifted, whole, List.drop_take, List.take_take, List.drop_drop,
    Nat.min_eq_left (by rw [TextRange.length]; omega)]
  rfl

theorem Row.mono {ending : String} {inner outer : TextRange} {names : List Name}
    (h : Row text ending inner names) (le : outer.encloses inner = true) :
    Row text ending outer names :=
  ⟨fun n hn => TextRange.encloses_trans le (h.inside n hn), h.nonempty, h.slice_eq, h.pairwise⟩

theorem Row.filter {ending : String} {within : TextRange} {names : List Name}
    (h : Row text ending within names) (p : Name → Bool) : Row text ending within (names.filter p) :=
  ⟨fun n hn => h.inside n (List.mem_filter.1 hn).1, fun n hn => h.nonempty n (List.mem_filter.1 hn).1,
    fun n hn => h.slice_eq n (List.mem_filter.1 hn).1, h.pairwise.filter p⟩

theorem Row.nil (text ending : String) (within : TextRange) : Row text ending within [] :=
  ⟨by simp, by simp, by simp, .nil⟩

/-- Stretches of a value one after the other, at `stretch` in it, are a row of names in the text. -/
theorem Row.of_parts {α : Type} {ending : String} {parts : List α} {name : α → Name}
    (stretch : α → TextRange) (h : v.Written text)
    (shifted : ∀ a ∈ parts, (name a).range = (stretch a).shift v.range.start)
    (nonempty : ∀ a ∈ parts, (stretch a).start < (stretch a).stop)
    (le : ∀ a ∈ parts, (stretch a).stop ≤ v.text.toList.length)
    (written : ∀ a ∈ parts, slice v.text (stretch a) = (name a).text ++ ending)
    (apart : parts.Pairwise fun a b => (stretch a).stop ≤ (stretch b).start) :
    Row text ending v.range (parts.map name) where
  inside := List.forall_mem_map.2 fun a ha => by
    have := h.length_eq ▸ le a ha
    have := h.start_le_stop
    rw [shifted a ha, TextRange.encloses_iff]
    simp only [TextRange.shift, TextRange.length] at *
    omega
  nonempty := List.forall_mem_map.2 fun a ha => by
    have := nonempty a ha
    rw [shifted a ha]
    simp only [TextRange.shift]
    omega
  slice_eq := List.forall_mem_map.2 fun a ha => by
    rw [shifted a ha, h.slice_shift (h.length_eq ▸ le a ha), written a ha]
  pairwise := List.pairwise_map.2 (apart.imp_of_mem fun {a b} ha hb before => by
    rw [shifted a ha, shifted b hb]
    simp only [TextRange.shift]
    omega)

/-! ## Names in a value -/

/-- The words of a value are written in the text. -/
theorem row_words (h : v.Written text) : Row text "" v.range v.words := by
  refine Row.of_parts (fun r : Run => ⟨r.start, r.stop⟩) h (fun _ _ => rfl) ?_ ?_ ?_ ?_
  · intro r hr
    obtain ⟨-, -, -, -, nonempty, -⟩ := exists_split_of_mem_runs hr
    exact Nat.lt_add_of_pos_right (List.length_pos_of_ne_nil nonempty)
  · intro r hr
    obtain ⟨before, after, split, start, -⟩ := exists_split_of_mem_runs hr
    rw [split]
    simp only [Run.stop, List.length_append]
    omega
  · intro r hr
    obtain ⟨before, after, split, start, -⟩ := exists_split_of_mem_runs hr
    rw [Nat.zero_add] at start
    rw [slice_eq_of_split split start (by rw [Run.stop, start])]
    exact (String.append_empty).symm
  · exact (pairwise_runs isBlank 0 _).imp fun h => Nat.le_of_lt h

/-- The modifiers of a class are written in the text, each with a colon behind it. -/
theorem row_modifiers (h : v.Written text) : Row text ":" v.range v.modifiers := by
  have mem {r : Run} (hr : r ∈ (runs (· == ':') 0 v.text.toList).filter
      (·.stop < v.text.toList.length)) :
      r ∈ runs (· == ':') 0 v.text.toList ∧ r.stop < v.text.toList.length := by
    simpa using List.mem_filter.1 hr
  refine Row.of_parts (fun r : Run => ⟨r.start, r.stop + 1⟩) h (fun _ _ => rfl) ?_ ?_ ?_ ?_
  · intro r _
    exact Nat.lt_succ_of_le (Nat.le_add_right _ _)
  · exact fun r hr => (mem hr).2
  · intro r hr
    obtain ⟨hr, ended⟩ := mem hr
    obtain ⟨before, after, split, start, -, separator⟩ := exists_split_of_mem_runs hr
    rw [Nat.zero_add] at start
    -- a run that ends before the text does has a colon behind it
    obtain ⟨rest, rfl⟩ : ∃ rest, after = ':' :: rest := by
      cases after with
      | nil =>
        rw [split, Run.stop, start, List.append_nil, List.length_append] at ended
        omega
      | cons c rest =>
        obtain rfl : c = ':' := eq_of_beq (separator c rfl)
        exact ⟨rest, rfl⟩
    have split : v.text.toList = before ++ (r.text ++ [':']) ++ rest := by rw [split]; simp
    rw [slice_eq_of_split split start (by rw [Run.stop, start, List.length_append]; rfl)]
    exact String.ofList_append
  · exact ((pairwise_runs (· == ':') 0 _).filter _).imp fun h => h

/-- Every controller of an action has a character. -/
theorem minLength_pos_of_mem_captures {q : Pattern} (h : q ∈ Rule.actionTarget.captures) :
    0 < q.minLength := by
  have all : ∀ n ∈ Rule.actionTarget.captures.map Pattern.minLength, 0 < n := by decide
  exact all _ (List.mem_map_of_mem h)

/-- The controllers of an action list are written in the text. -/
theorem row_actionTargets (h : v.Written text) : Row text "" v.range (Rule.actionTargets v) := by
  have captures : Rule.actionTargets v =
      ((Rule.actionTarget.allFrom (Place.first v.text.toList)).filterMap (·.captured)).map fun s =>
        ⟨String.ofList s.chars, s.range.shift v.range.start⟩ := by
    rw [List.map_filterMap]
    rfl
  rw [captures]
  refine Row.of_parts Stretch.range h (fun _ _ => rfl) ?_ ?_ ?_ ?_
  · intro s hs
    obtain ⟨m, hm, captured⟩ := List.mem_filterMap.1 hs
    obtain ⟨q, hq, -, le, -⟩ :=
      Pattern.captured_of_matchAt (Pattern.matchAt_of_mem_allFrom hm).2 captured
    exact Nat.lt_of_lt_of_le (Nat.lt_add_of_pos_right (minLength_pos_of_mem_captures hq)) le
  · exact fun s _ => s.stop.offset_le
  · intro s _
    rw [slice_stretch]
    exact (String.append_empty).symm
  · refine List.pairwise_filterMap.2 ((Pattern.pairwise_allFrom _ _).imp_of_mem ?_)
    intro m n hm hn before s hs t ht
    obtain ⟨-, -, -, -, le⟩ :=
      Pattern.captured_of_matchAt (Pattern.matchAt_of_mem_allFrom hm).2 hs
    obtain ⟨-, -, le', -, -⟩ :=
      Pattern.captured_of_matchAt (Pattern.matchAt_of_mem_allFrom hn).2 ht
    exact Nat.le_trans le (Nat.le_trans before le')

end Name

/-! ## Spans of matches -/

namespace Rule

/-- Every identifier that a rule captures has a character. -/
theorem minLength_pos_of_ident {rule : Rule} (h : rule ∈ table) (ident : rule.shape = .ident)
    {q : Pattern} (hq : q ∈ rule.pattern.captures) : 0 < q.minLength := by
  have all : ∀ e ∈ table.map fun rule => (rule.shape, rule.pattern.captures.map Pattern.minLength),
      e.1 = .ident → ∀ n ∈ e.2, 0 < n := by decide
  exact all _ (List.mem_map_of_mem h) ident _ (List.mem_map_of_mem hq)

end Rule

namespace Span

variable {text : String} {s t : Span}

/-- What a rule captured is written in the text, inside the match. -/
theorem written_captured {rule : Rule} {place : Place text.toList} {m : Match text.toList}
    (found : rule.seek place = some m) {v : Stretch text.toList} (hv : m.captured = some v) :
    m.stretch.range.encloses v.range = true ∧ Name.Written text ⟨String.ofList v.chars, v.range⟩ := by
  obtain ⟨q, -, le, nonempty, le'⟩ := Pattern.captured_of_matchAt (Rule.matchAt_of_seek found) hv
  exact ⟨TextRange.encloses_iff.2 ⟨le, le'⟩, Nat.le_trans (Nat.le_add_right _ _) nonempty,
    v.stop.offset_le, slice_stretch v⟩

theorem value?_span {rule : Rule} {range : TextRange} {captured : Option Name} {v : Name}
    (h : (rule.span range captured).value? = some v) : captured = some v := by
  cases captured with
  | none => simp [Rule.span, value?] at h
  | some c =>
    rw [Rule.span, value?, Option.map_some, Option.getD_some] at h
    cases hs : rule.shape <;> simp [hs, Rule.payload] at h <;> rw [h]

/-- The names that a rule reads in a value are a row in it. -/
theorem row_payload {rule : Rule} {v : Name} (written : v.Written text) (range : TextRange)
    (ident : rule.shape = .ident → v.range.start < v.range.stop) :
    Name.Row text "" v.range (rule.span range (some v)).names := by
  rw [Rule.span, names, Option.map_some, Option.getD_some]
  cases hs : rule.shape with
  | value => exact .nil _ _ _
  | words => exact Name.row_words written
  | actionTargets => exact Name.row_actionTargets written
  | ident =>
    refine ⟨?_, ?_, ?_, List.pairwise_singleton _ _⟩ <;> simp only [Rule.payload, List.forall_mem_singleton]
    · exact TextRange.encloses_refl _
    · exact ident hs
    · exact written.slice_eq.trans String.append_empty.symm

/-- A match of a rule is located in the text, with what it captured. -/
theorem located_span {h : Head text.toList} (sought : h.IsSought) : h.span.Located text := by
  have lt := sought.start_lt_stop
  obtain ⟨mem, place, found⟩ := sought
  have ending : (if h.span.kind = .classToken then ":" else "") = "" :=
    if_neg (kind_ne_classToken mem)
  refine ⟨lt, h.stop_le_length, ?_, ?_⟩
  · intro v hv
    obtain ⟨c, captured, rfl⟩ := Option.map_eq_some_iff.1 (value?_span hv)
    exact written_captured found captured
  · rw [ending]
    cases captured : h.found.captured with
    | none =>
      simp only [Head.span, captured, Rule.span, names]
      exact .nil _ _ _
    | some c =>
      obtain ⟨inside, written⟩ := written_captured found captured
      have ident (hs : h.rule.shape = .ident) : c.range.start < c.range.stop := by
        obtain ⟨q, hq, -, le, -⟩ := Pattern.captured_of_matchAt (Rule.matchAt_of_seek found) captured
        exact Nat.lt_of_lt_of_le (Nat.lt_add_of_pos_right (Rule.minLength_pos_of_ident mem hs hq)) le
      have row := (row_payload written h.found.stretch.range ident).mono inside
      rwa [Head.span, captured]

/-- The classes in the value of a located span are located too, inside the span. -/
theorem located_classTokens {v : Name} (h : s.Located text) (hv : s.value? = some v)
    (ht : t ∈ v.classTokens) : t.Located text ∧ s.range.encloses t.range = true := by
  obtain ⟨token, mem, rfl⟩ := List.mem_map.1 ht
  obtain ⟨inside, written⟩ := h.value v hv
  have words := (Name.row_words written).mono inside
  have lt := words.nonempty token mem
  have le := (TextRange.encloses_iff.1 (words.inside token mem)).2
  have written : token.Written text :=
    ⟨Nat.le_of_lt lt, Nat.le_trans le h.stop_le, (words.slice_eq token mem).trans String.append_empty⟩
  refine ⟨⟨lt, written.stop_le, ?_, Name.row_modifiers written⟩, words.inside token mem⟩
  intro value same
  obtain rfl := Option.some.inj same
  exact ⟨TextRange.encloses_refl _, written⟩

/-- The classes of a located span that have modifiers are located too, inside the span. -/
theorem located_modifiedClasses (h : s.Located text) (ht : t ∈ s.modifiedClasses) :
    t.Located text ∧ s.range.encloses t.range = true := by
  obtain ⟨ht, -⟩ := List.mem_filter.1 ht
  cases hv : s.value? with
  | none => simp [hv] at ht
  | some v =>
    rw [hv, Option.map_some, Option.getD_some] at ht
    exact located_classTokens h hv ht

/-- Of the classes of a located span, each starts behind the ones before. -/
theorem pairwise_modifiedClasses (h : s.Located text) :
    s.modifiedClasses.Pairwise fun t u => t.range.stop ≤ u.range.start := by
  rw [modifiedClasses]
  cases hv : s.value? with
  | none => exact .nil
  | some v =>
    rw [Option.map_some, Option.getD_some]
    exact (List.pairwise_map.2 (Name.row_words (h.value v hv).2).pairwise).filter _

variable {kinds : List SpanKind}

/-- A span is expanded to itself and, if class tokens are asked for, to classes of it. -/
theorem mem_expand (h : t ∈ expand kinds s) : t = s ∨
    (.classToken ∈ kinds ∧ s.kind = .classAttribute) ∧ t ∈ s.modifiedClasses := by
  by_cases split : .classToken ∈ kinds ∧ s.kind = .classAttribute
  · rw [expand_of_split split.1 split.2] at h
    rcases List.mem_append.1 h with h | h
    · split at h <;> simp_all
    · exact .inr ⟨split, h⟩
  · rw [expand_of_not_split fun h h' => split ⟨h, h'⟩] at h
    exact .inl (List.mem_singleton.1 h)

/-- What a located span is expanded to is located, inside the span, and comes from its kind. -/
theorem located_expand (h : s.Located text) (matched : s.kind ≠ .classToken)
    (ht : t ∈ expand kinds s) :
    t.Located text ∧ s.range.encloses t.range = true ∧ source t.kind = s.kind := by
  rcases mem_expand ht with rfl | ⟨⟨-, kind⟩, ht⟩
  · exact ⟨h, TextRange.encloses_refl _, source_of_ne matched⟩
  · obtain ⟨located, inside⟩ := located_modifiedClasses h ht
    exact ⟨located, inside, by rw [kind_of_mem_modifiedClasses ht, kind, source]⟩

/-- Of what a located span is expanded to, spans of one kind do not overlap. -/
theorem pairwise_expand (h : s.Located text) (matched : s.kind ≠ .classToken) :
    (expand kinds s).Pairwise fun t u => t.kind = u.kind → t.range.stop ≤ u.range.start := by
  by_cases split : .classToken ∈ kinds ∧ s.kind = .classAttribute
  · rw [expand_of_split split.1 split.2, List.pairwise_append]
    refine ⟨?_, (pairwise_modifiedClasses h).imp ?_, ?_⟩
    · split <;> simp
    · exact fun before _ => before
    · intro t ht u hu same
      obtain rfl : t = s := by split at ht <;> simp_all
      exact absurd (same.trans (kind_of_mem_modifiedClasses hu)) matched
  · rw [expand_of_not_split fun h h' => split ⟨h, h'⟩]
    exact List.pairwise_singleton _ _

end Span

/-! ## Spans of a scan -/

/-- Of the heads of one kind that are taken, each starts behind the ones before. -/
theorem Head.pairwise_merge {chars : List Char} (heads : List (Head chars)) :
    (merge heads).Pairwise fun h g => h.rule.kind = g.rule.kind → h.stop ≤ g.start := by
  fun_induction merge heads with
  | case1 => exact .nil
  | case2 heads taken first lt ih =>
    refine List.pairwise_cons.2 ⟨forall_mem_merge ?_ ?_, ih⟩
    · intro other h g behind hg same
      exact Nat.le_trans (behind (same.trans (congrArg Rule.kind (rule_of_resume hg))))
        (start_le_of_resume hg)
    · intro g hg same
      obtain ⟨h, -, hg⟩ := List.mem_filterMap.1 hg
      have rule := rule_of_resume hg
      rw [resume] at hg
      split at hg
      · exact le_start_of_seek hg
      · rename_i apart
        obtain rfl := Option.some.inj hg
        exact Nat.le_of_not_lt fun overlaps => apart ⟨same.symm, overlaps⟩
  | case3 => exact List.pairwise_singleton _ _

/-- The heads that are taken come in the order of their starts. -/
theorem Head.pairwise_start_merge {chars : List Char} (heads : List (Head chars)) :
    (merge heads).Pairwise fun h g => h.start ≤ g.start := by
  fun_induction merge heads with
  | case1 => exact .nil
  | case2 heads taken first lt ih =>
    refine List.pairwise_cons.2 ⟨forall_mem_merge ?_ ?_, ih⟩
    · exact fun {_ h g} le hg => Nat.le_trans le (start_le_of_resume hg)
    · intro g hg
      obtain ⟨h, hm, hg⟩ := List.mem_filterMap.1 hg
      exact Nat.le_trans (le_of_earliest first hm) (start_le_of_resume hg)
  | case3 => exact List.pairwise_singleton _ _

namespace Span

variable (text : String) (kinds : List SpanKind)

/-- Of the heads of one kind in a scan, each starts behind the ones before. -/
theorem pairwise_heads : (heads text kinds).Pairwise fun h g =>
    h.rule.kind = g.rule.kind → h.stop ≤ g.start :=
  Head.pairwise_merge _

/-- The heads of a scan come in the order of their starts. -/
theorem pairwise_start_heads : (heads text kinds).Pairwise fun h g => h.start ≤ g.start :=
  Head.pairwise_start_merge _

variable {text kinds}

/-- What a head of a scan is expanded to is located, inside its match, and comes from its kind. -/
theorem located_of_mem_heads {h : Head text.toList} (hm : h ∈ heads text kinds)
    (hs : s ∈ expand kinds h.span) :
    s.Located text ∧ h.span.range.encloses s.range = true ∧ source s.kind = h.rule.kind :=
  have sought := isSought_of_mem_heads hm
  located_expand (located_span sought) (kind_ne_classToken sought.1) hs

/-- A span of a scan that is no class is what a rule for its kind finds. -/
theorem exists_head_of_mem_scan (h : s ∈ scan text kinds) (whole : s.kind ≠ .classToken) :
    ∃ g : Head text.toList, g.IsSought ∧ g.rule.kind = s.kind ∧ g.span = s := by
  rw [scan_eq] at h
  obtain ⟨g, gm, hg⟩ := List.mem_flatMap.1 h
  rcases mem_expand hg with rfl | ⟨-, split⟩
  · exact ⟨g, isSought_of_mem_heads gm, rfl, rfl⟩
  · exact absurd (kind_of_mem_modifiedClasses split) whole

variable (text kinds)

theorem located_of_mem_scan (h : s ∈ scan text kinds) : s.Located text := by
  rw [scan_eq] at h
  obtain ⟨h, hm, hs⟩ := List.mem_flatMap.1 h
  exact (located_of_mem_heads hm hs).1

/-- Of the spans of one kind in a scan, each starts behind the ones before. -/
theorem pairwise_scan :
    (scan text kinds).Pairwise fun s t => s.kind = t.kind → s.range.stop ≤ t.range.start := by
  rw [scan_eq]
  refine List.pairwise_flatMap.2 ⟨fun h hm => ?_, (pairwise_heads text kinds).imp_of_mem ?_⟩
  · have sought := isSought_of_mem_heads hm
    exact pairwise_expand (located_span sought) (kind_ne_classToken sought.1)
  · intro h g hm gm before s hs t ht same
    obtain ⟨-, within, source⟩ := located_of_mem_heads hm hs
    obtain ⟨-, within', source'⟩ := located_of_mem_heads gm ht
    have le : h.stop ≤ g.start := before (source.symm.trans (same ▸ source'))
    exact Nat.le_trans (TextRange.encloses_iff.1 within).2
      (Nat.le_trans le (TextRange.encloses_iff.1 within').1)

/-- The spans of a scan for one kind come one after the other. -/
theorem pairwise_scan_singleton (text : String) (kind : SpanKind) :
    (scan text [kind]).Pairwise fun s t => s.range.stop ≤ t.range.start := by
  have own {s : Span} (hs : s ∈ scan text [kind]) : s.kind = kind :=
    List.mem_singleton.1 (kind_of_mem_scan hs)
  exact (pairwise_scan text [kind]).imp_of_mem fun hs ht behind =>
    behind ((own hs).trans (own ht).symm)

/-- Every span of a scan is located in the text, and of the spans of one kind each starts behind the
ones before. -/
theorem scan_located (text : String) (kinds : List SpanKind) :
    (∀ s ∈ scan text kinds, s.Located text) ∧
      (scan text kinds).Pairwise fun s t => s.kind = t.kind → s.range.stop ≤ t.range.start :=
  ⟨fun _ => located_of_mem_scan text kinds, pairwise_scan text kinds⟩

end Span

end TemplatePaint
