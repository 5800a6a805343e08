import TemplatePaint.Feature
import TemplatePaint.Proofs.Frame.Around
import TemplatePaint.Proofs.Paint.Complement
import TemplatePaint.Proofs.Span.Located
import TemplatePaint.Proofs.Text.LineOffsets

/-!
# Regions lie in the text

Whatever a feature paints lies in the text (`Feature.edits_in_text`). Every
region comes from one of a few sources, and each has its bound: the gaps
between ranges end at the end of the text, spans and their names stand where
they were read (`Links.fits_links`), and the lines of a frame are cut off at
the last line, however far the folds of the host reach
(`FrameScope.first_le_last`).
-/

namespace TemplatePaint

/-- The range is one of a text with this many characters. -/
def TextRange.Fits (total : Nat) (r : TextRange) : Prop := r.start ≤ r.stop ∧ r.stop ≤ total

variable {text : String} {spans : List Span} {s : Span}

/-! ## Spans and names -/

theorem Span.Located.fits (h : s.Located text) : s.range.Fits text.toList.length :=
  ⟨Nat.le_of_lt h.start_lt_stop, h.stop_le⟩

/-- The names of a located span lie in the text. -/
theorem Span.Located.fits_of_mem_names (h : s.Located text) {n : Name} (hn : n ∈ s.names) :
    n.range.Fits text.toList.length := by
  have nonempty := h.names.nonempty n hn
  have inside := TextRange.encloses_iff.1 (h.names.inside n hn)
  have le := h.stop_le
  exact ⟨Nat.le_of_lt nonempty, by omega⟩

/-- The stretch from the first name to the last lies in the span and is not empty. -/
theorem Span.Located.bounds_of_namesRange? (h : s.Located text) {r : TextRange}
    (hr : s.namesRange? = some r) :
    s.range.start ≤ r.start ∧ r.start < r.stop ∧ r.stop ≤ s.range.stop := by
  have row := h.names
  rw [Span.namesRange?] at hr
  cases hn : s.names with
  | nil => simp [hn] at hr
  | cons first rest =>
    rw [hn] at hr row
    obtain ⟨behind, -⟩ := List.pairwise_cons.1 row.pairwise
    have last := List.getLast?_eq_some_getLast (List.cons_ne_nil first rest)
    rw [List.head?_cons, last] at hr
    obtain rfl := Option.some.inj hr
    have mem := List.getLast_mem (List.cons_ne_nil first rest)
    generalize (first :: rest).getLast _ = final at mem
    have start := TextRange.encloses_iff.1 (row.inside first List.mem_cons_self)
    have stop := TextRange.encloses_iff.1 (row.inside final mem)
    have nonempty := row.nonempty final mem
    refine ⟨start.1, ?_, stop.2⟩
    show first.range.start < final.range.stop
    rcases List.mem_cons.1 mem with rfl | later
    · exact nonempty
    · have := row.nonempty first List.mem_cons_self
      have := behind final later
      omega

theorem Span.Located.fits_of_namesRange? (h : s.Located text) {r : TextRange}
    (hr : s.namesRange? = some r) : r.Fits text.toList.length := by
  obtain ⟨-, nonempty, stop⟩ := h.bounds_of_namesRange? hr
  exact ⟨Nat.le_of_lt nonempty, Nat.le_trans stop h.stop_le⟩

/-- The classes that a located span stands for are located. -/
theorem Span.Located.located_classes (h : s.Located text) {c : Span} (hc : c ∈ s.classes) :
    c.Located text := by
  rw [Span.classes] at hc
  split at hc
  · exact List.mem_singleton.1 hc ▸ h
  · cases hv : s.value? with
    | none => simp [hv] at hc
    | some v =>
      rw [hv, Option.map_some, Option.getD_some] at hc
      exact (Span.located_classTokens h hv hc).1
  · simp at hc

/-! ## Links -/

theorem Span.mem_of_mem_gather (h : s ∈ gather spans) : s ∈ spans :=
  (sublist_distinctBy _ spans).subset ((perm_sortBy _ _).mem_iff.1 h)

/-- All that is linked lies in the text. -/
structure Links.Fits (total : Nat) (links : Links) : Prop where
  spans : ∀ s ∈ links.spans, s.range.Fits total
  byModifier : ∀ group ∈ links.byModifier, ∀ r ∈ group.2, r.Fits total
  exact : ∀ r ∈ links.exact, r.Fits total

namespace Links

theorem fits_empty (total : Nat) : empty.Fits total :=
  ⟨List.forall_mem_nil _, List.forall_mem_nil _, List.forall_mem_nil _⟩

/-- Spans that lie in the text may be linked. -/
theorem fits_of_spans (h : ∀ s ∈ spans, s.Located text) (keep : Span → Bool) :
    Fits text.toList.length { empty with spans := Span.gather (spans.filter keep) } where
  spans s hs := (h s (List.mem_filter.1 (Span.mem_of_mem_gather hs)).1).fits
  byModifier := List.forall_mem_nil _
  exact := List.forall_mem_nil _

/-- The classes of located spans are located. -/
theorem located_of_mem_classesOf (h : ∀ s ∈ spans, s.Located text) {c : Span}
    (hc : c ∈ classesOf spans) : c.Located text := by
  have mem := (sublist_distinctBy _ _).subset ((perm_sortBy _ _).mem_iff.1 hc)
  obtain ⟨s, hs, hc⟩ := List.mem_flatMap.1 mem
  exact (h s hs).located_classes hc

/-- The occurrences of modifiers and the exact matches lie in the text. -/
theorem fits_ofModifiers (h : ∀ s ∈ spans, s.Located text) (active exactKey : List String) :
    (ofModifiers spans active exactKey).Fits text.toList.length where
  spans s hs :=
    (located_of_mem_classesOf h (List.mem_filter.1 (Span.mem_of_mem_gather hs)).1).fits
  byModifier := by
    intro group hg r hr
    obtain ⟨modifier, -, rfl⟩ := List.mem_map.1 hg
    obtain ⟨n, hn, rfl⟩ := List.mem_map.1 hr
    obtain ⟨c, hc, hn⟩ := List.mem_flatMap.1 (List.mem_filter.1 (List.mem_filter.1 hn).1).1
    exact (located_of_mem_classesOf h hc).fits_of_mem_names hn
  exact := by
    intro r hr
    change r ∈ exactMatches (classesOf spans) active exactKey at hr
    rw [exactMatches] at hr
    split at hr
    · obtain ⟨c, hc, hr⟩ := List.mem_filterMap.1 hr
      exact (located_of_mem_classesOf h (List.mem_filter.1 hc).1).fits_of_namesRange? hr
    · simp at hr

/-- What belongs to a context lies in the text. -/
theorem fits_links (h : ∀ s ∈ spans, s.Located text) (context : Context) :
    (context.links spans).Fits text.toList.length := by
  cases context with
  | none => exact fits_empty _
  | suppressed => exact fits_empty _
  | script primary => exact fits_of_spans h _
  | modifiers token active exactKey => exact fits_ofModifiers h active exactKey
  | controllers primary names => exact fits_of_spans h _
  | frame primary id => exact fits_of_spans h _

end Links

/-! ## Plans -/

theorem Region.mem_of_mem_finish {regions : List Region} {r : Region} (h : r ∈ finish regions) :
    r ∈ regions :=
  (sublist_distinctBy _ regions).subset ((perm_sortBy _ _).mem_iff.1 h)

namespace Style

variable {links : Links}

/-- The regions that a style makes of links in the text lie in the text. -/
theorem fits_of_mem_regions (h : links.Fits text.toList.length) (style : Style) {r : Region}
    (hr : r ∈ style.regions text links) : r.range.Fits text.toList.length := by
  cases style with
  | dimOthers =>
    obtain ⟨gap, hg, rfl⟩ := List.mem_map.1 hr
    have bounds := bounds_of_mem_complement hg
    exact ⟨Nat.le_of_lt bounds.1, bounds.2⟩
  | highlight group =>
    obtain ⟨s, hs, rfl⟩ := List.mem_map.1 hr
    exact h.spans s hs
  | buckets =>
    rcases List.mem_append.1 hr with hr | hr
    · obtain ⟨⟨group, number⟩, hg, hr⟩ := List.mem_flatMap.1 hr
      obtain ⟨range, hm, rfl⟩ := List.mem_map.1 hr
      exact h.byModifier group (List.fst_mem_of_mem_zipIdx hg) range hm
    · obtain ⟨range, hm, rfl⟩ := List.mem_map.1 hr
      exact h.exact range hm
  | fold expanded =>
    obtain ⟨s, hs, rfl⟩ := List.mem_map.1 hr
    exact h.spans s (List.mem_filter.1 hs).1

theorem fits_of_mem_plan (h : links.Fits text.toList.length) {style : Style} {context : Context}
    {r : Region} (hr : r ∈ style.plan text context links) : r.range.Fits text.toList.length := by
  rw [plan] at hr
  split at hr
  · exact fits_of_mem_regions h style (Region.mem_of_mem_finish hr)
  · simp at hr

end Style

/-- The regions of an edit are those of the plan that are of its group. -/
theorem Edit.mem_plan_of_mem_regions {plan : List Region} {groups : List Group} {e : Edit}
    (he : e ∈ ofPlan plan groups) {r : Region} (hr : r ∈ e.regions) :
    r ∈ plan ∧ r.group = e.group := by
  rw [regions_of_mem_ofPlan he] at hr
  exact (List.mem_filter.1 hr).imp_right beq_iff_eq.1

/-! ## Features -/

/-- The lines of a frame are in order, if the folds are. -/
theorem FrameScope.first_le_last {o : Outline} {line : Nat} {scope : FrameScope}
    (ordered : ∀ fold ∈ o.folds, fold.first ≤ fold.last) (h : o.enclosing line = some scope) :
    scope.lines.first ≤ scope.lines.last := by
  rcases Outline.enclosing_cases h with ⟨d, -, rfl⟩ | ⟨-, hf⟩ | ⟨-, -, above, opened⟩
  · exact Outline.le_blockEnd ordered line
  · exact ordered _ (Outline.enclosingFold_eq_some hf).1
  · obtain ⟨d, -, rfl⟩ := opened.scope_eq
    exact Outline.le_blockEnd ordered above

namespace Feature

variable {pass : Pass}

theorem located_of_mem_spans {kinds : List SpanKind} :
    ∀ s ∈ pass.spans kinds, s.Located pass.text :=
  fun _ => Span.located_of_mem_scan _ _

/-- The plan of the frames lies in the text. -/
theorem fits_of_mem_framePlan (ordered : ∀ fold ∈ pass.folds, fold.first ≤ fold.last)
    (located : ∀ s ∈ spans, s.Located pass.text) {context : Context} {r : Region}
    (hr : r ∈ framePlan pass spans context) : r.range.Fits pass.snapshot.charCount := by
  rw [framePlan] at hr
  generalize hs : (Outline.ofSpans (LineIndex.ofText pass.text) spans pass.folds).enclosing
    ((LineIndex.ofText pass.text).lineAt pass.snapshot.cursor) = scope at hr
  cases scope with
  | none => exact Style.fits_of_mem_plan (Links.fits_links located _) hr
  | some scope =>
    rcases List.mem_append.1 (Region.mem_of_mem_finish hr) with hr | hr
    · exact Style.fits_of_mem_plan (Links.fits_links located _) hr
    · obtain rfl := List.mem_singleton.1 hr
      exact LineIndex.bounds_linesRange pass.text (FrameScope.first_le_last ordered hs)

/-- Each region of an edit is of the group of the edit, and lies in the text. -/
theorem fits_of_mem_edits (ordered : ∀ fold ∈ pass.folds, fold.first ≤ fold.last) (f : Feature)
    {e : Edit} (he : e ∈ f.edits pass) {r : Region} (hr : r ∈ e.regions) :
    r.group = e.group ∧ r.range.Fits pass.snapshot.charCount := by
  have planned {plan : List Region} (fits : ∀ r ∈ plan, r.range.Fits pass.snapshot.charCount)
      (he : e ∈ Edit.ofPlan plan f.groups) : r.group = e.group ∧
        r.range.Fits pass.snapshot.charCount := by
    obtain ⟨mem, own⟩ := Edit.mem_plan_of_mem_regions he hr
    exact ⟨own, fits r mem⟩
  have linked {kinds : List SpanKind} {target : Target} {style : Style} :
      ∀ r ∈ pass.plan (pass.spans kinds) target style, r.range.Fits pass.snapshot.charCount :=
    fun r hr => Style.fits_of_mem_plan (Links.fits_links located_of_mem_spans _) hr
  cases f with
  | scriptEmphasis => exact planned linked he
  | modifierHighlight => exact planned linked he
  | controllerLinks => exact planned linked he
  | classFolding =>
    refine planned (fun r hr => Style.fits_of_mem_plan ⟨fun s hs => ?_, ?_, ?_⟩ hr) he
    · exact (Span.located_of_mem_scan _ _ hs).fits
    · exact List.forall_mem_nil _
    · exact List.forall_mem_nil _
  | frameLinks =>
    change e ∈ frameEdits pass at he
    rw [frameEdits] at he
    split at he
    · obtain ⟨g, -, rfl⟩ := List.mem_map.1 he
      simp [Edit.regions] at hr
    · exact planned (fun r hr => fits_of_mem_framePlan ordered located_of_mem_spans hr) he

/-- Whatever the text, the cursor, the settings and the expanded range, and however far the folds
reach, a feature gives one edit for each of its groups, in their order; each region of an edit is of
its group, and lies in the text. -/
theorem edits_in_text (ordered : ∀ fold ∈ pass.folds, fold.first ≤ fold.last) (f : Feature) :
    (f.edits pass).map Edit.group = f.groups ∧ f.groups.Nodup ∧
      ∀ e ∈ f.edits pass, ∀ r ∈ e.regions, r.group = e.group ∧
        r.range.start ≤ r.range.stop ∧ r.range.stop ≤ pass.snapshot.charCount := by
  refine ⟨map_group_edits pass f, ?_, fun e he r hr => fits_of_mem_edits ordered f he hr⟩
  cases f <;> decide

/-- If the fold of a frame reaches past the end, its lines end with the last line. -/
theorem edits_of_fold_past_end :
    let pass : Pass := ⟨.ofCursor "<turbo-frame id=\"a\">\nb" 0 false, .always, none, [⟨0, 9⟩]⟩
    (∀ fold ∈ pass.folds, fold.first ≤ fold.last) ∧
      ((frameLinks.edits pass).map fun e => e.regions.map (·.range)) = [[⟨0, 20⟩], [⟨0, 21⟩]] ∧
      ∀ e ∈ frameLinks.edits pass, ∀ r ∈ e.regions, r.group = e.group ∧
        r.range.start ≤ r.range.stop ∧ r.range.stop ≤ 22 := by
  intro pass
  have ordered : ∀ fold ∈ pass.folds, fold.first ≤ fold.last := by decide
  have length : pass.snapshot.charCount = 22 := by decide +kernel
  exact ⟨ordered, by decide +kernel, length ▸ (edits_in_text ordered frameLinks).2.2⟩

end Feature

end TemplatePaint
