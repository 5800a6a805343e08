import TemplatePaint.Feature
import TemplatePaint.Proofs.Span.ClassAttributes
import TemplatePaint.Proofs.Text.Replacement
import TemplatePaint.Text.ByteSlice

/-!
# Folded class attributes

With a class attribute of the text expanded, all others are folded, each as a
region of its own, in order (`Feature.regions_of_mem_classFolding`): an
attribute shares no character with another. So a cursor for which the first
attribute that it touches is expanded stands in no folded one just if it touches
no two, which are those that meet at it (`Span.touched_unique_iff`).

Nothing of the text is lost (`Feature.classFolding_lossless`): each folded
region has the text behind it, so the text can be restored from what is shown.
-/

namespace TemplatePaint

/-- If at most one entry has a property, the entries that are not the first to have it are those
without it. -/
theorem filter_find?_ne {α : Type} [DecidableEq α] {as : List α} {p : α → Bool}
    (one : ∀ a ∈ as, ∀ b ∈ as, p a = true → p b = true → a = b) :
    (as.filter fun a => as.find? p ≠ some a) = as.filter (!p ·) := by
  refine List.filter_congr fun a ha => ?_
  rw [Bool.eq_iff_iff, decide_eq_true_iff, Bool.not_eq_true']
  constructor
  · intro other
    refine Bool.eq_false_iff.2 fun holds => other ?_
    exact find?_eq_some_of_unique ha holds fun b hb holds' => one b hb a ha holds' holds
  · intro fails found
    exact Bool.false_ne_true (fails.symm.trans (List.find?_some found))

namespace Span

variable {text : String} {a b : Span} {cursor : Nat}

/-- Two class attributes share no character unless they are the same. -/
theorem overlaps_classAttributes (ha : a ∈ scan text [.classAttribute])
    (hb : b ∈ scan text [.classAttribute]) (overlaps : a.range.overlaps b.range = true) : a = b := by
  refine Classical.byContradiction fun ne => ?_
  rw [TextRange.overlaps, Bool.and_eq_true, decide_eq_true_iff, decide_eq_true_iff] at overlaps
  have := rel_or_rel_of_ne (pairwise_classAttributes text) ha hb ne
  omega

/-- Class attributes have different ranges. -/
theorem eq_of_range_eq (ha : a ∈ scan text [.classAttribute])
    (hb : b ∈ scan text [.classAttribute]) (same : a.range = b.range) : a = b := by
  have := (located_of_mem_scan text _ ha).start_lt_stop
  refine overlaps_classAttributes ha hb ?_
  rw [← same, TextRange.overlaps, Bool.and_self, decide_eq_true_iff]
  exact this

/-- A cursor touches at most one class attribute just if no two meet at it. -/
theorem touched_unique_iff :
    (∀ a ∈ scan text [.classAttribute], ∀ b ∈ scan text [.classAttribute],
        a.range.touches cursor = true → b.range.touches cursor = true → a = b) ↔
      ∀ a ∈ scan text [.classAttribute], ∀ b ∈ scan text [.classAttribute],
        ¬ (a.range.stop = cursor ∧ b.range.start = cursor) := by
  constructor
  · rintro one a ha b hb ⟨stop, start⟩
    have := (located_of_mem_scan text _ ha).start_lt_stop
    have := (located_of_mem_scan text _ hb).start_lt_stop
    obtain rfl := one a ha b hb (TextRange.touches_iff.2 (by omega))
      (TextRange.touches_iff.2 (by omega))
    omega
  · intro apart a ha b hb touched touched'
    rcases eq_or_meet ha hb touched touched' with same | meet | meet
    · exact same
    · exact absurd meet (apart a ha b hb)
    · exact absurd meet (apart b hb a ha)

end Span

namespace Style

/-- The class attributes that neither overlap the expanded range nor are it are folded, in order. -/
theorem plan_fold (text : String) (expanded : Option TextRange) :
    (fold expanded.toList).plan text .none
        { Links.empty with spans := Span.scan text [.classAttribute] } =
      ((Span.scan text [.classAttribute]).filter fun a =>
        !expanded.any fun e => e.overlaps a.range || e == a.range).map fun a =>
          Region.folded text a.range := by
  have collapsed : ((Span.scan text [.classAttribute]).filter fun s => s.kind == .classAttribute &&
      !expanded.toList.any fun e => e.overlaps s.range || e == s.range) =
      (Span.scan text [.classAttribute]).filter fun s =>
        !expanded.any fun e => e.overlaps s.range || e == s.range := by
    refine List.filter_congr fun s hs => ?_
    rw [Span.kind_of_mem_classAttributes hs]
    cases expanded <;> simp
  rw [plan, if_pos (show applies .none (fold _) = true from rfl), regions, foldedExcept, collapsed]
  refine Region.finish_of_pairwise (List.pairwise_map.2 ?_)
  refine ((Span.pairwise_classAttributes text).filter _).imp_of_mem fun hs _ before => ?_
  have located := Span.located_of_mem_scan text _ (List.mem_filter.1 hs).1
  exact .inl (Nat.lt_of_lt_of_le located.start_lt_stop before)

end Style

/-- The class attributes that neither overlap the expanded range nor are the range. -/
def Pass.collapsed (pass : Pass) : List Span :=
  (Span.scan pass.text [.classAttribute]).filter fun a =>
    !pass.expanded.any fun e => e.overlaps a.range || e == a.range

/-- If one class attribute or none is expanded, all others are folded. -/
theorem Pass.collapsed_eq {pass : Pass} {expanded : Option Span}
    (own : ∀ a, expanded = some a → a ∈ Span.scan pass.text [.classAttribute])
    (h : pass.expanded = expanded.map (·.range)) :
    pass.collapsed = (Span.scan pass.text [.classAttribute]).filter fun a => expanded ≠ some a := by
  refine List.filter_congr fun s hs => ?_
  rw [h]
  cases expanded with
  | none => rfl
  | some a =>
    have ha := own a rfl
    by_cases same : a = s
    · subst same
      simp
    · have apart : a.range.overlaps s.range = false := Bool.eq_false_iff.2 fun overlaps =>
        same (Span.overlaps_classAttributes ha hs overlaps)
      have other : a.range ≠ s.range := fun e => same (Span.eq_of_range_eq ha hs e)
      simp [apart, other, same]

namespace Feature

/-- Folding gives one edit, which folds the class attributes that are not expanded, in order. -/
theorem exists_edit_classFolding (pass : Pass) :
    ∃ e, classFolding.edits pass = [e] ∧ e.group = .folded ∧
      e.regions = pass.collapsed.map fun a => Region.folded pass.text a.range := by
  obtain ⟨e, only, own⟩ := List.map_eq_singleton_iff.1 (map_group_edits pass classFolding)
  refine ⟨e, only, own, ?_⟩
  have he : e ∈ classFolding.edits pass := only ▸ List.mem_singleton_self e
  rw [edits, Style.plan_fold] at he
  rw [Edit.regions_of_mem_ofPlan he, own]
  exact Region.inGroup_eq_self (List.forall_mem_map.2 fun _ _ => rfl)

/-- The class attributes that are folded over a snapshot if the one under the cursor is expanded:
all but the first that the cursor touches. -/
theorem regions_of_mem_classFolding {pass : Pass} {expanded : Option Span}
    (own : ∀ a, expanded = some a → a ∈ Span.scan pass.text [.classAttribute])
    (h : pass.expanded = expanded.map (·.range)) {e : Edit} (he : e ∈ classFolding.edits pass) :
    e.regions = ((Span.scan pass.text [.classAttribute]).filter fun a => expanded ≠ some a).map
      fun a => Region.folded pass.text a.range := by
  obtain ⟨f, only, -, regions⟩ := exists_edit_classFolding pass
  rw [only] at he
  rw [List.mem_singleton.1 he, regions, Pass.collapsed_eq own h]

end Feature

/-! ## The text behind the folds -/

namespace Region

/-- The ranges that are shown as something else, and as what. -/
def replacements (regions : List Region) : List (TextRange × String) :=
  regions.filterMap fun r => r.replacement?.map (r.range, ·)

/-- The texts behind the replacements. -/
def details (regions : List Region) : List String := regions.filterMap (·.detail?)

/-- The text as it is shown. -/
def shown (text : String) (regions : List Region) : String :=
  replaceRanges text (replacements regions)

/-- What is shown, with each replacement replaced by the text behind it. -/
def unfolded (text : String) (regions : List Region) : String :=
  replaceRanges (shown text regions)
    ((insertedRanges (replacements regions)).zip (details regions))

variable {text : String} {ranges : List TextRange}

theorem replacements_folded (text : String) (ranges : List TextRange) :
    replacements (ranges.map (folded text)) = ranges.map (·, foldedGlyph) := by
  rw [replacements, List.filterMap_map]
  exact congrFun List.filterMap_eq_map _

/-- Behind each glyph is what stood there. -/
theorem details_folded (text : String) (ranges : List TextRange) :
    details (ranges.map (folded text)) =
      (replacements (ranges.map (folded text))).map fun p => slice text p.1 := by
  rw [replacements_folded, List.map_map, details, List.filterMap_map]
  exact congrFun List.filterMap_eq_map _

theorem map_fst_replacements_folded (text : String) (ranges : List TextRange) :
    (replacements (ranges.map (folded text))).map (·.1) = ranges := by
  rw [replacements_folded, List.map_map]
  exact List.map_id ranges

/-- For each folded range, the glyph is shown. -/
theorem map_slice_shown_folded (h : InOrder text.toList.length 0 ranges) :
    (insertedRanges (replacements (ranges.map (folded text)))).map
      (slice (shown text (ranges.map (folded text)))) = ranges.map fun _ => foldedGlyph := by
  rw [← map_fst_replacements_folded text ranges] at h
  rw [shown, map_slice_inserted h, replacements_folded, List.map_map]
  rfl

/-- If each glyph is replaced by the text behind it, the result is the text. -/
theorem unfolded_folded (h : InOrder text.toList.length 0 ranges) :
    unfolded text (ranges.map (folded text)) = text := by
  rw [← map_fst_replacements_folded text ranges] at h
  rw [unfolded, details_folded]
  exact replaceRanges_inserted h

end Region

namespace Pass

variable {pass : Pass}

/-- What is folded stands in the text and is not empty. -/
theorem located_of_mem_collapsed {a : Span} (h : a ∈ pass.collapsed) : a.Located pass.text :=
  Span.located_of_mem_scan pass.text _ (List.mem_filter.1 h).1

theorem pairwise_collapsed (pass : Pass) :
    pass.collapsed.Pairwise fun a b => a.range.stop ≤ b.range.start :=
  (Span.pairwise_classAttributes pass.text).filter _

theorem inOrder_collapsed (pass : Pass) :
    InOrder pass.text.toList.length 0 (pass.collapsed.map (·.range)) := by
  refine inOrder_of_pairwise (List.pairwise_map.2 pass.pairwise_collapsed) ?_ ?_
    (fun _ _ => Nat.zero_le _) (Nat.zero_le _)
  · exact List.forall_mem_map.2 fun a h => Nat.le_of_lt (located_of_mem_collapsed h).start_lt_stop
  · exact List.forall_mem_map.2 fun a h => (located_of_mem_collapsed h).stop_le

end Pass

/-- Folding loses nothing of the text. The folded regions are the class attributes that neither
overlap the expanded range nor are it, one after the other, and behind each is just what stands at
its range. For each, the glyph is shown, and if the glyphs are replaced by what is behind them, in
order, the result is the text. -/
theorem Feature.classFolding_lossless (pass : Pass) :
    ∃ e, classFolding.edits pass = [e] ∧ e.group = .folded ∧
      e.regions.map (·.range) = pass.collapsed.map (·.range) ∧
      (e.regions.Pairwise fun r s => r.range.stop ≤ s.range.start) ∧
      (∀ r ∈ e.regions, r.range.start < r.range.stop ∧ r.group = .folded ∧
        r.replacement? = some Region.foldedGlyph ∧
        ∃ before detail after, r.detail? = some detail ∧ detail = byteSlice pass.text r.range ∧
          pass.text = before ++ detail ++ after ∧ before.toList.length = r.range.start ∧
          (before ++ detail).toList.length = r.range.stop) ∧
      (insertedRanges (Region.replacements e.regions)).map
          (slice (Region.shown pass.text e.regions)) =
        e.regions.map (fun _ => Region.foldedGlyph) ∧
      Region.unfolded pass.text e.regions = pass.text := by
  obtain ⟨e, only, own, regions⟩ := exists_edit_classFolding pass
  refine ⟨e, only, own, ?_⟩
  have ordered := pass.inOrder_collapsed
  have folded : e.regions = (pass.collapsed.map (·.range)).map (Region.folded pass.text) := by
    rw [regions, List.map_map]
    rfl
  rw [folded, Region.map_slice_shown_folded ordered, Region.unfolded_folded ordered]
  refine ⟨?_, ?_, ?_, ?_, rfl⟩
  · rw [List.map_map]
    exact List.map_id _
  · rw [List.map_map, List.pairwise_map]
    exact pass.pairwise_collapsed
  · refine List.forall_mem_map.2 (List.forall_mem_map.2 fun a ha => ?_)
    obtain ⟨start_lt_stop, inside, -, -⟩ := Pass.located_of_mem_collapsed ha
    obtain ⟨before, after, split⟩ := exists_split_slice (Nat.le_of_lt start_lt_stop) inside
    exact ⟨start_lt_stop, rfl, rfl, before, _, after, rfl, (byteSlice_eq_slice _ _).symm, split⟩
  · rw [List.map_map, List.map_map, List.map_map]
    rfl

example : (Feature.classFolding.edits ⟨.ofCursor "é<a class=\"x\">" 0 false, .always, none, []⟩).map
    (Region.shown "é<a class=\"x\">" ·.regions) = ["é<a ⋯>"] := by decide +kernel

end TemplatePaint
