import TemplatePaint.Proofs.Paint.Bounds
import TemplatePaint.Proofs.Text.LineBreaks
import TemplatePaint.Proofs.Text.LineNumbers

/-!
# The painted lines of a frame

The frame around the cursor is painted as one region, from the start of its first
line to the end of its last (`Feature.exists_edit_frameScope`). Only a fold of
the host takes a frame past the last line of the text
(`Outline.lines_mem_folds_of_past`). A line past the last one ends where the last
one starts, so the region then leaves out what the last line shows
(`Feature.frame_lines_past_end`).
-/

namespace TemplatePaint

namespace Outline

variable {o : Outline} {line : Nat} {s : FrameScope}

theorem blockEndFrom_lt {base left next last bound : Nat} (hl : last < bound)
    (hn : next + left ≤ bound) : o.blockEndFrom base left next last < bound := by
  induction left generalizing next last with
  | zero => exact hl
  | succ left ih =>
    rw [blockEndFrom]
    split
    · exact ih hl (by omega)
    · split
      · split
        · omega
        · exact hl
      · exact ih (by omega) (by omega)

/-- A block of the text that ends past the last line is a fold. -/
theorem mem_folds_of_past (inside : line < o.index.count) (past : o.index.count ≤ o.blockEnd line) :
    ⟨line, o.blockEnd line⟩ ∈ o.folds := by
  cases hf : o.foldEnd? line with
  | some last =>
    obtain ⟨⟨fold, hm, rfl, rfl⟩, -⟩ := foldEnd?_eq_some hf
    rw [blockEnd, hf]
    exact hm
  | none =>
    -- by indentation, a block ends on a line of the text
    have lt : o.blockEnd line < o.index.count := by
      rw [blockEnd, hf]
      dsimp only
      split
      · exact blockEndFrom_lt inside (by omega)
      · exact inside
    omega

/-- A frame whose lines go past the last line of the text is a fold. -/
theorem lines_mem_folds_of_past (inside : line < o.index.count) (h : o.enclosing line = some s)
    (past : o.index.count ≤ s.lines.last) : s.lines ∈ o.folds := by
  rcases enclosing_cases h with ⟨d, -, rfl⟩ | ⟨-, hf⟩ | ⟨-, -, above, opened⟩
  · exact mem_folds_of_past inside past
  · exact (enclosingFold_eq_some hf).1
  · obtain ⟨d, -, rfl⟩ := opened.scope_eq
    exact mem_folds_of_past (Nat.lt_trans opened.lt inside) past

end Outline

theorem Style.group_of_mem_highlight {group : Group} {text : String} {context : Context}
    {links : Links} {r : Region} (h : r ∈ (highlight group).plan text context links) :
    r.group = group := by
  rw [plan] at h
  split at h
  · obtain ⟨s, -, rfl⟩ := List.mem_map.1 (Region.mem_of_mem_finish h)
    rfl
  · simp at h

namespace Pass

/-- The spans that name a frame, and the comments. -/
def frameSpans (pass : Pass) : List Span := pass.spans [.frameDeclaration, .frameReference]

/-- The frame around the cursor. -/
def frame? (pass : Pass) : Option FrameScope :=
  let index := LineIndex.ofText pass.text
  (Outline.ofSpans index pass.frameSpans pass.folds).enclosing (index.lineAt pass.snapshot.cursor)

end Pass

namespace Feature

variable {pass : Pass} {scope : FrameScope}

/-- The lines of the frame around the cursor are planned as one region. -/
theorem inGroup_framePlan (h : pass.frame? = some scope) (context : Context) :
    Region.inGroup (framePlan pass pass.frameSpans context) .frameScope =
      [.scope ((LineIndex.ofText pass.text).linesRange scope.lines)] := by
  rw [Pass.frame?] at h
  rw [framePlan, h]
  refine Region.inGroup_finish (fun r => ?_) (List.pairwise_singleton _ _)
  rw [List.mem_append, List.mem_singleton]
  constructor
  · rintro rfl
    exact ⟨.inr rfl, rfl⟩
  · rintro ⟨planned | own, group⟩
    · have := (Style.group_of_mem_highlight planned).symm.trans group
      simp at this
    · exact own

/-- Outside of comments, the lines of the frame around the cursor are painted as one region. -/
theorem exists_edit_frameScope (h : pass.frame? = some scope)
    (outside : Context.atCursor pass.frameSpans pass.snapshot.cursor .frame ≠ .suppressed) :
    ∃ e ∈ frameLinks.edits pass, e.group = .frameScope ∧
      e.regions = [.scope ((LineIndex.ofText pass.text).linesRange scope.lines)] := by
  obtain ⟨e, he, own⟩ : ∃ e ∈ frameLinks.edits pass, e.group = .frameScope := by
    refine List.mem_map.1 ?_
    rw [map_group_edits]
    exact List.mem_cons_of_mem _ (List.mem_singleton_self _)
  refine ⟨e, he, own, ?_⟩
  change e ∈ frameEdits pass at he
  rw [frameEdits] at he
  split at he
  · rename_i suppressed
    exact absurd suppressed outside
  · rw [Edit.regions_of_mem_ofPlan he, own]
    exact inGroup_framePlan h _

/-- A line ends no earlier than the ones before it, unless they are the last one of the text and one
past it, and the last one shows something. So lines up to one past the last stop where the last one
starts. Such are the lines of a frame that is a fold past the end: they are painted to the end of
the text just if the last line shows nothing. -/
theorem frame_lines_past_end (pass : Pass) :
    let index := LineIndex.ofText pass.text
    let last := index.count - 1
    (∀ n m, n ≤ m → (index.lineEnd n ≤ index.lineEnd m ↔
      m < index.count ∨ n ≠ last ∨ index.shown last = [])) ∧
    (∀ first final, index.count ≤ final →
      index.linesRange ⟨first, final⟩ = ⟨index.lineStart first, index.lineStart last⟩ ∧
      (index.linesRange ⟨first, final⟩ = index.linesRange ⟨first, last⟩ ↔
        index.shown last = [])) ∧
    ∀ scope, pass.frame? = some scope → index.count ≤ scope.lines.last →
      Context.atCursor pass.frameSpans pass.snapshot.cursor .frame ≠ .suppressed →
      scope.lines ∈ pass.folds ∧
      (∃ e ∈ frameLinks.edits pass, e.group = .frameScope ∧
        e.regions = [.scope ⟨index.lineStart scope.lines.first, index.lineStart last⟩]) ∧
      (index.lineStart last = pass.snapshot.charCount ↔ index.shown last = []) := by
  intro index last
  refine ⟨fun n m h => LineIndex.lineEnd_le_lineEnd_iff pass.text h,
    fun first final past => LineIndex.linesRange_of_past pass.text past,
    fun scope h past outside => ⟨?_, ?_, ?_⟩⟩
  · exact Outline.lines_mem_folds_of_past (LineIndex.lineAt_lt pass.text _) h past
  · rw [← (LineIndex.linesRange_of_past pass.text past).1]
    exact exists_edit_frameScope h outside
  · have stop : index.lineEnd last = pass.snapshot.charCount := LineIndex.lineEnd_last pass.text
    rw [← stop]
    exact LineIndex.lineStart_eq_lineEnd_iff pass.text last

/-- A frame that is a fold past the end is painted without the last line, where this shows
something. -/
theorem frame_lines_before_last :
    let pass : Pass := ⟨.ofCursor "<turbo-frame id=\"a\">\nb" 0 false, .always, none, [⟨0, 9⟩]⟩
    ∃ scope, pass.frame? = some scope ∧ scope.lines ∈ pass.folds ∧
      (∃ e ∈ frameLinks.edits pass, e.group = .frameScope ∧ e.regions = [.scope ⟨0, 21⟩]) ∧
      (LineIndex.ofText pass.text).shown 1 = ['b'] := by
  intro pass
  obtain ⟨scope, found, first, past⟩ : ∃ scope, pass.frame? = some scope ∧
      scope.lines.first = 0 ∧ 2 ≤ scope.lines.last := by
    have found : pass.frame?.any (fun s => s.lines.first == 0 && decide (2 ≤ s.lines.last)) = true := by
      decide +kernel
    obtain ⟨scope, found, lines⟩ := (Option.any_eq_true _ _).1 found
    exact ⟨scope, found, by simpa using lines⟩
  obtain ⟨count, outside, start, last, shown⟩ : (LineIndex.ofText pass.text).count = 2 ∧
      Context.atCursor pass.frameSpans pass.snapshot.cursor .frame ≠ .suppressed ∧
      (LineIndex.ofText pass.text).lineStart 0 = 0 ∧
      (LineIndex.ofText pass.text).lineStart 1 = 21 ∧
      (LineIndex.ofText pass.text).shown 1 = ['b'] := by
    decide +kernel
  obtain ⟨fold, painted, -⟩ :=
    (frame_lines_past_end pass).2.2 scope found (count ▸ past) outside
  rw [first, count, start, last] at painted
  exact ⟨scope, found, fold, painted, shown⟩

end Feature

/-- A line past a last one that shows something ends before it. -/
theorem LineIndex.lineEnd_not_mono :
    ¬ ∀ (text : String) (n m : Nat), n ≤ m → (ofText text).lineEnd n ≤ (ofText text).lineEnd m := by
  intro mono
  exact absurd (mono "a" 0 1 (by decide)) (by decide +kernel)

end TemplatePaint
