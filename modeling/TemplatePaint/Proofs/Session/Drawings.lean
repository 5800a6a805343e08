import TemplatePaint.Host.Workspace
import TemplatePaint.Proofs.Session.Record
import TemplatePaint.Proofs.Span.Located
import TemplatePaint.Proofs.Text.LineNumbers

/-!
# Folding drawings

The host is asked to fold the drawings that take more than one line. Such a
drawing ends on a later line than it starts on, and the next one starts behind
it, so no line comes twice (`Session.pairwise_multilineStarts`) and dropping
repetitions changes nothing (`Session.drawingLines_eq`).

* `Session.mem_drawingLines_iff`: the lines that are folded;
* `Session.foldDrawings_exact`: what is given back and what the host is told.
-/

namespace TemplatePaint

namespace Span

variable {text : String} {a : Span}

/-- The line that a span starts on, if it ends on a later one. -/
def multilineStart? (text : String) (a : Span) : Option Nat :=
  let index := LineIndex.ofText text
  let first := index.lineAt a.range.start
  if first < index.lineAt (a.range.stop - 1) then some first else none

theorem multilineStart?_eq_some_iff {n : Nat} : a.multilineStart? text = some n ↔
    (LineIndex.ofText text).lineAt a.range.start = n ∧
      n < (LineIndex.ofText text).lineAt (a.range.stop - 1) := by
  rw [multilineStart?, Option.ite_none_right_eq_some, Option.some.injEq, and_comm]
  refine and_congr_right ?_
  rintro rfl
  rfl

/-- A located span takes more than one line just if its last character is on a later line than its
first. -/
theorem Located.multilineStart?_iff (h : a.Located text) {n : Nat} :
    a.multilineStart? text = some n ↔ (LineIndex.ofText text).OnLine n a.range.start ∧
      ∃ m, n < m ∧ (LineIndex.ofText text).OnLine m (a.range.stop - 1) := by
  have start := h.start_lt_stop
  have stop := h.stop_le
  rw [multilineStart?_eq_some_iff, LineIndex.lineAt_eq_iff (by omega)]
  refine and_congr_right fun _ => ⟨fun later => ?_, ?_⟩
  · exact ⟨_, later, (LineIndex.lineAt_eq_iff (by omega)).1 rfl⟩
  · rintro ⟨m, later, last⟩
    rwa [last.lineAt_eq]

end Span

namespace Session

/-! ## Lines of drawings -/

/-- A list that goes up has no repetition to be dropped. -/
theorem withoutRepeats_of_pairwise {lines : List Nat} (h : lines.Pairwise (· < ·)) :
    drawingLines.withoutRepeats lines = lines := by
  induction lines with
  | nil => rfl
  | cons line lines ih =>
    obtain ⟨first, rest⟩ := List.pairwise_cons.1 h
    rw [drawingLines.withoutRepeats, ih rest]
    cases lines with
    | nil => rfl
    | cons l ls => exact if_neg (Nat.ne_of_lt (first l List.mem_cons_self))

/-- Of the drawings of more than one line, each starts on a later line than the ones before: it
starts behind them, so not before the line that they end on. -/
theorem pairwise_multilineStarts (text : String) :
    ((Span.scan text [.svg]).filterMap (·.multilineStart? text)).Pairwise (· < ·) := by
  refine List.pairwise_filterMap.2 ((Span.pairwise_scan_singleton text .svg).imp ?_)
  intro a b behind first hfirst second hsecond
  have apart : a.range.stop - 1 ≤ b.range.start := Nat.le_trans (Nat.sub_le _ _) behind
  obtain ⟨-, more⟩ := Span.multilineStart?_eq_some_iff.1 hfirst
  obtain ⟨rfl, -⟩ := Span.multilineStart?_eq_some_iff.1 hsecond
  exact Nat.lt_of_lt_of_le more (LineIndex.lineAt_mono text apart)

/-- No line comes twice, so each drawing of more than one line gives a line. -/
theorem drawingLines_eq (text : String) :
    drawingLines text = (Span.scan text [.svg]).filterMap (·.multilineStart? text) :=
  withoutRepeats_of_pairwise (pairwise_multilineStarts text)

/-- A line is folded just if a drawing starts on it whose last character is on a later line. -/
theorem mem_drawingLines_iff {text : String} {n : Nat} : n ∈ drawingLines text ↔
    ∃ a ∈ Span.scan text [.svg], (LineIndex.ofText text).OnLine n a.range.start ∧
      ∃ m, n < m ∧ (LineIndex.ofText text).OnLine m (a.range.stop - 1) := by
  rw [drawingLines_eq, List.mem_filterMap]
  exact exists_congr fun a => and_congr_right fun ha =>
    (Span.located_of_mem_scan text _ ha).multilineStart?_iff

/-! ## What the host is told -/

variable {σ : Type} [Host σ] {s : Session (Recorded σ)} {doc text : String}

theorem foldDrawings_lines (live : s.isLive doc = true) (shown : Host.text? s.host doc = some text) :
    (s.foldDrawings doc).1 = drawingLines text := by
  rw [foldDrawings, if_pos live, shown]

theorem foldsDrawings_eq (live : s.isLive doc = true) (shown : Host.text? s.host doc = some text) :
    s.foldsDrawings doc =
      if drawingLines text = [] then [] else [.foldLines doc (drawingLines text)] := by
  rw [foldsDrawings, if_pos live, shown]
  simp only [List.isEmpty_iff]

/-- Folding the drawings of a live document gives the lines that drawings of more than one line
start on, in their order and each once: a line is given just if a drawing starts on it and has its
last character on a later line. The host is told once to fold these lines if there are any, and
nothing else. -/
theorem foldDrawings_exact (live : s.isLive doc = true)
    (shown : Host.text? s.host doc = some text) :
    let lines := (s.foldDrawings doc).1
    lines.Pairwise (· < ·) ∧
    (∀ n, n ∈ lines ↔
      ∃ a ∈ Span.scan text [.svg], (LineIndex.ofText text).OnLine n a.range.start ∧
        ∃ m, n < m ∧ (LineIndex.ofText text).OnLine m (a.range.stop - 1)) ∧
    (s.foldDrawings doc).2.host.callsSince s.host =
      if lines = [] then [] else [.foldLines doc lines] := by
  intro lines
  have same : lines = drawingLines text := foldDrawings_lines live shown
  rw [same]
  refine ⟨drawingLines_eq text ▸ pairwise_multilineStarts text, fun n => mem_drawingLines_iff, ?_⟩
  have told := s.calls_tellAll (s.foldsDrawings doc)
  rw [← foldDrawings_eq, foldsDrawings_eq live shown] at told
  rw [Recorded.callsSince_eq told]
  split <;> rfl

/-- A template with this text. -/
def oneTemplate (text : String) : Workspace :=
  .ofDocuments (.insert .empty "a.erb" ⟨some text, some 0, false⟩) false

/-- Of three drawings the second starts on the line where the first ends, and the third takes one
line. -/
theorem foldDrawings_three :
    let s := fresh (oneTemplate "<svg>\n</svg><svg>\n</svg>\n<svg></svg>") .default
    (s.foldDrawings "a.erb").1 = [0, 1] ∧
      (s.foldDrawings "a.erb").2.host.callsSince s.host = [.foldLines "a.erb" [0, 1]] := by
  intro s
  obtain ⟨live, shown, lines⟩ :
      s.isLive "a.erb" = true ∧
      Host.text? s.host "a.erb" = some "<svg>\n</svg><svg>\n</svg>\n<svg></svg>" ∧
      (s.foldDrawings "a.erb").1 = [0, 1] := by
    decide +kernel
  obtain ⟨-, -, told⟩ := foldDrawings_exact live shown
  rw [lines] at told
  exact ⟨lines, told⟩

end Session

end TemplatePaint
