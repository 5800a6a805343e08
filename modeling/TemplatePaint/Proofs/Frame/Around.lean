import TemplatePaint.Proofs.Frame.Folds
import TemplatePaint.Proofs.Frame.Walk
import TemplatePaint.Span.Stream

/-!
# Whether a frame holds the line it is found for

The frame around a line starts on the line or above it, with its declaration.
How far its block goes is told by other rules than those that found it, so the
block may end before the line: `enclosing_contains_iff` says when it holds it.
-/

namespace TemplatePaint

namespace Outline

variable {o : Outline} {line above : Nat} {s : FrameScope}

/-- No fold bounds the block opened on the line `above`, all between that line and `line` is
indented deeper, and from `line` on the block goes on. -/
structure ReachesTo (o : Outline) (above line : Nat) : Prop where
  unbounded : ∀ fold ∈ o.folds, fold.first ≠ above
  deeper : ∀ l, above < l → l < line → ∀ i, o.index.indent? l = some i →
    (o.index.indent? above).getD 0 < i
  goesOn : o.GoesOn ((o.index.indent? above).getD 0) line o.index.count

/-- A frame around a line is declared on it, or a fold around the line, or opened above. -/
theorem enclosing_cases (h : o.enclosing line = some s) :
    (∃ d, o.declarationOn line = some d ∧ s = o.scope d line) ∨
      o.declarationOn line = none ∧ o.enclosingFold line = some s ∨
      o.declarationOn line = none ∧ o.enclosingFold line = none ∧
        ∃ above, o.OpenedOn s above line := by
  rw [enclosing] at h
  cases hd : o.declarationOn line with
  | some d =>
    rw [hd] at h
    exact .inl ⟨d, rfl, (Option.some.inj h).symm⟩
  | none =>
    rw [hd] at h
    cases hf : o.enclosingFold line with
    | some s' =>
      rw [hf] at h
      exact .inr (.inl ⟨rfl, h⟩)
    | none =>
      rw [hf] at h
      obtain ⟨above, opened, -⟩ := openedOn_of_openAbove h
      exact .inr (.inr ⟨rfl, rfl, above, opened⟩)

/-- A block ends no earlier than it starts. -/
theorem le_blockEnd (ordered : ∀ fold ∈ o.folds, fold.first ≤ fold.last) (line : Nat) :
    line ≤ o.blockEnd line := by
  rw [blockEnd]
  cases hf : o.foldEnd? line with
  | some last =>
    obtain ⟨⟨fold, hm, rfl, rfl⟩, -⟩ := foldEnd?_eq_some hf
    exact ordered fold hm
  | none =>
    dsimp only
    split
    · exact le_blockEndFrom (Nat.lt_succ_self line)
    · exact Nat.le_refl line

/-- The block of a frame opened above goes as far as a line around which there is no fold of a
frame just if it reaches the line by indentation: a fold that starts with the frame ends before
the line. -/
theorem OpenedOn.le_blockEnd_iff (opened : o.OpenedOn s above line)
    (none : o.enclosingFold line = none) : line ≤ o.blockEnd above ↔ o.ReachesTo above line := by
  obtain ⟨d, hd, -⟩ := opened.scope_eq
  obtain ⟨base, hb, -⟩ := opened.shallow
  cases hf : o.foldEnd? above with
  | some last =>
    obtain ⟨⟨fold, hm, rfl, rfl⟩, -⟩ := foldEnd?_eq_some hf
    refine ⟨fun h => ?_, fun reaches => absurd rfl (reaches.unbounded fold hm)⟩
    rw [blockEnd, hf] at h
    have around : fold.contains line = true := LineRange.contains_iff.2 ⟨Nat.le_of_lt opened.lt, h⟩
    have undeclared := enclosingFold_eq_none none hm around
    simp [hd] at undeclared
  | none =>
    rw [Outline.le_blockEnd_iff hf opened.opens hb opened.lt]
    constructor
    · exact fun h => ⟨foldEnd?_eq_none hf, by simpa [hb] using h.1, by simpa [hb] using h.2⟩
    · exact fun h => ⟨by simpa [hb] using h.deeper, by simpa [hb] using h.goesOn⟩

/-- The frame around a line starts with its declaration, on the line or above. It holds the line
just if it is declared there, or a fold around the line starts with a declaration, or its block
reaches the line by indentation. -/
theorem enclosing_contains_iff (ordered : ∀ fold ∈ o.folds, fold.first ≤ fold.last)
    (h : o.enclosing line = some s) :
    o.declarationOn s.lines.first = some s.declaration ∧ s.lines.first ≤ line ∧
      (s.lines.contains line = true ↔
        (o.declarationOn line).isSome = true ∨
        (∃ fold ∈ o.folds, fold.contains line = true ∧
          (o.declarationOn fold.first).isSome = true) ∨
        o.ReachesTo s.lines.first line) := by
  rcases enclosing_cases h with ⟨d, hd, rfl⟩ | ⟨hd, hf⟩ | ⟨hd, hf, above, opened⟩
  · refine ⟨hd, Nat.le_refl line, fun _ => .inl (by simp [hd]), fun _ => ?_⟩
    exact LineRange.contains_iff.2 ⟨Nat.le_refl line, le_blockEnd ordered line⟩
  · obtain ⟨hm, around, declared, -⟩ := enclosingFold_eq_some hf
    exact ⟨declared, (LineRange.contains_iff.1 around).1,
      fun _ => .inr (.inl ⟨_, hm, around, by simp [declared]⟩), fun _ => around⟩
  · have reach := opened.le_blockEnd_iff hf
    obtain ⟨d, declared, rfl⟩ := opened.scope_eq
    have contains : (o.scope d above).lines.contains line = true ↔ line ≤ o.blockEnd above :=
      LineRange.contains_iff.trans (and_iff_right (Nat.le_of_lt opened.lt))
    refine ⟨declared, Nat.le_of_lt opened.lt, ?_⟩
    rw [contains, reach]
    constructor
    · exact fun reaches => .inr (.inr reaches)
    · rintro (here | ⟨fold, hm, around, start⟩ | reaches)
      · simp [hd] at here
      · simp [enclosingFold_eq_none hf hm around] at start
      · exact reaches

/-- The frames of a text, with these folds. -/
def ofText (text : String) (folds : List LineRange) : Outline :=
  .ofSpans (.ofText text) (Span.scan text [.frameDeclaration, .frameReference]) folds

/-- A blank line among the contents of a frame is held, for the contents are indented, and the next
line that is not blank closes the frame. -/
theorem enclosing_contains_blank_line :
    let o := ofText "<turbo-frame id=\"a\">\n  <p>x</p>\n\n</turbo-frame>" []
    ∃ s, o.enclosing 2 = some s ∧ s.lines.contains 2 = true := by
  intro o
  obtain ⟨s, hs, first⟩ : ∃ s, o.enclosing 2 = some s ∧ s.lines.first = 0 := by
    have found : (o.enclosing 2).any (·.lines.first == 0) = true := by decide +kernel
    obtain ⟨s, hs, first⟩ := (Option.any_eq_true _ _).1 found
    exact ⟨s, hs, by simpa using first⟩
  obtain ⟨opener, contents, blank, closer⟩ : o.index.indent? 0 = some 0 ∧
      o.index.indent? 1 = some 2 ∧ o.index.indent? 2 = none ∧
      o.index.indent? 3 = some 0 ∧ closesBlock (o.index.shown 3) = true ∧ o.index.count = 4 := by
    decide +kernel
  refine ⟨s, hs, (enclosing_contains_iff (by simp [o, ofText, ofSpans]) hs).2.2.2 (.inr (.inr ?_))⟩
  rw [first]
  refine ⟨by simp [o, ofText, ofSpans], fun l h₁ h₂ i hi => ?_, 3, by omega, by omega,
    fun l h₁ h₂ => ?_, 0, closer.1, .inr closer.2.1⟩
  · obtain rfl : l = 1 := by omega
    obtain rfl := Option.some.inj (contents.symm.trans hi)
    simp [opener]
  · obtain rfl : l = 2 := by omega
    exact blank

/-- A frame that is found for a line need not hold it: contents that are not indented are outside of
the block, though the walk up finds the frame from there. -/
theorem enclosing_misses_line :
    ¬∀ (text : String) (kinds : List SpanKind) (folds : List LineRange) (line : Nat)
      (s : FrameScope), (∀ fold ∈ folds, fold.first ≤ fold.last) →
      line < (LineIndex.ofText text).count →
      (ofSpans (.ofText text) (Span.scan text kinds) folds).enclosing line = some s →
      s.lines.contains line = true := by
  intro holds
  have found : ((ofText "<turbo-frame id=\"a\">\n<p>x</p>\n</turbo-frame>" []).enclosing 1).any
      (!·.lines.contains 1) = true := by decide +kernel
  obtain ⟨s, hs, misses⟩ := (Option.any_eq_true _ _).1 found
  have contains := holds _ _ [] 1 s (by simp) (by decide +kernel) hs
  simp [contains] at misses

end Outline

end TemplatePaint
