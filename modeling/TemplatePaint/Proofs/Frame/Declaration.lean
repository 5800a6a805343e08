import TemplatePaint.Proofs.Frame.Around

/-!
# Frames found from their declaration

A frame is found from the line of its declaration, too, with the same
declaration: the block then ends as `blockEnd` says, which is never before the
end that was found from inside (`enclosing_first`). The two ends differ just if
a fold that starts with the declaration ends behind the frame
(`enclosing_first_iff`), for inside of a frame the fold that ends first is taken,
and on its declaration the one that ends last.
-/

namespace TemplatePaint

namespace Outline

variable {o : Outline} {line : Nat} {s : FrameScope}

/-- On the line of a declaration, the frame that it declares is found. -/
theorem enclosing_of_declarationOn {d : Span} (h : o.declarationOn line = some d) :
    o.enclosing line = some (o.scope d line) := by
  rw [enclosing, h]

/-- A frame starts on the line of its declaration. -/
theorem declarationOn_of_enclosing (h : o.enclosing line = some s) :
    o.declarationOn s.lines.first = some s.declaration := by
  rcases enclosing_cases h with ⟨d, hd, rfl⟩ | ⟨-, hf⟩ | ⟨-, -, above, opened⟩
  · exact hd
  · exact (enclosingFold_eq_some hf).2.2.1
  · obtain ⟨d, hd, rfl⟩ := opened.scope_eq
    exact hd

/-- No fold that starts on a line ends behind its block. -/
theorem last_le_blockEnd {fold : LineRange} (hm : fold ∈ o.folds) :
    fold.last ≤ o.blockEnd fold.first := by
  cases hf : o.foldEnd? fold.first with
  | none => exact absurd rfl (foldEnd?_eq_none hf fold hm)
  | some last =>
    rw [blockEnd, hf]
    exact (foldEnd?_eq_some hf).2 fold hm rfl

/-- A block ends with a fold of its line just if no fold of the line ends later. -/
theorem blockEnd_eq_last_iff {fold : LineRange} (hm : fold ∈ o.folds) :
    o.blockEnd fold.first = fold.last ↔
      ∀ other ∈ o.folds, other.first = fold.first → other.last ≤ fold.last := by
  constructor
  · intro same other hm' start
    have le := last_le_blockEnd hm'
    rwa [start, same] at le
  · intro latest
    refine Nat.le_antisymm ?_ (last_le_blockEnd hm)
    cases hf : o.foldEnd? fold.first with
    | none => exact absurd rfl (foldEnd?_eq_none hf fold hm)
    | some last =>
      obtain ⟨⟨other, hm', start, rfl⟩, -⟩ := foldEnd?_eq_some hf
      rw [blockEnd, hf]
      exact latest other hm' start

/-- A frame is a fold, or it is found from its declaration as it is. -/
theorem mem_folds_or_eq_scope (h : o.enclosing line = some s) :
    s.lines ∈ o.folds ∨ s = o.scope s.declaration s.lines.first := by
  rcases enclosing_cases h with ⟨d, -, rfl⟩ | ⟨-, hf⟩ | ⟨-, -, above, opened⟩
  · exact .inr rfl
  · exact .inl (enclosingFold_eq_some hf).1
  · obtain ⟨d, -, rfl⟩ := opened.scope_eq
    exact .inr rfl

/-- From the line of its declaration, a frame is found as the declaration's scope, and that ends no
earlier. -/
theorem enclosing_first (h : o.enclosing line = some s) :
    o.enclosing s.lines.first = some (o.scope s.declaration s.lines.first) ∧
      s.lines.last ≤ o.blockEnd s.lines.first := by
  refine ⟨enclosing_of_declarationOn (declarationOn_of_enclosing h), ?_⟩
  rcases mem_folds_or_eq_scope h with hm | same
  · exact last_le_blockEnd hm
  · exact Nat.le_of_eq (congrArg (·.lines.last) same)

/-- From the line of its declaration, a frame is found with the same declaration and no shorter. It
is the same frame just if no fold that starts with the declaration ends behind it. -/
theorem enclosing_first_iff (h : o.enclosing line = some s) :
    (∃ last, s.lines.last ≤ last ∧
        o.enclosing s.lines.first = some ⟨s.declaration, ⟨s.lines.first, last⟩⟩) ∧
      (o.enclosing s.lines.first = some s ↔
        ∀ fold ∈ o.folds, fold.first = s.lines.first → fold.last ≤ s.lines.last) := by
  obtain ⟨found, le⟩ := enclosing_first h
  refine ⟨⟨_, le, found⟩, ?_⟩
  rw [found, Option.some.injEq]
  constructor
  · intro same fold hm start
    have ends := congrArg (·.lines.last) same
    rw [← start] at ends
    exact Nat.le_trans (last_le_blockEnd hm) (Nat.le_of_eq ends)
  · intro latest
    rcases mem_folds_or_eq_scope h with hm | same
    · have ends := (blockEnd_eq_last_iff hm).2 latest
      show FrameScope.mk s.declaration ⟨s.lines.first, o.blockEnd s.lines.first⟩ = s
      rw [ends]
    · exact same.symm

/-- In the inner of two folded frames, the inner frame is found from its contents and from its
declaration. -/
theorem enclosing_first_of_inner :
    let o := ofText "<turbo-frame id=\"a\">\n<turbo-frame id=\"b\">\nx\n</turbo-frame>\n</turbo-frame>"
      [⟨0, 4⟩, ⟨1, 3⟩]
    ∃ s, o.enclosing 2 = some s ∧ s.lines = ⟨1, 3⟩ ∧ o.enclosing 1 = some s := by
  intro o
  have found : (o.enclosing 2).any (·.lines == ⟨1, 3⟩) = true := by decide +kernel
  obtain ⟨s, hs, lines⟩ := (Option.any_eq_true _ _).1 found
  have lines : s.lines = ⟨1, 3⟩ := by simpa using lines
  have again := (enclosing_first_iff hs).2
  rw [lines] at again
  exact ⟨s, hs, lines, again.2 (by simp [o, ofText, ofSpans])⟩

/-- Of two folds that start with one declaration, a line inside both is told the shorter, and the
line of the declaration the longer. -/
theorem enclosing_first_ne_of_two_folds :
    ¬∀ (text : String) (kinds : List SpanKind) (folds : List LineRange) (line : Nat)
      (s : FrameScope), (∀ fold ∈ folds, fold.first ≤ fold.last) →
      line < (LineIndex.ofText text).count →
      (ofSpans (.ofText text) (Span.scan text kinds) folds).enclosing line = some s →
      (ofSpans (.ofText text) (Span.scan text kinds) folds).enclosing s.lines.first = some s := by
  intro holds
  let o := ofText "<turbo-frame id=\"a\">\nx\n</turbo-frame>" [⟨0, 1⟩, ⟨0, 2⟩]
  have found : (o.enclosing 1).any (fun s => o.enclosing s.lines.first != some s) = true := by
    decide +kernel
  obtain ⟨s, hs, other⟩ := (Option.any_eq_true _ _).1 found
  have again : o.enclosing s.lines.first = some s :=
    holds _ _ [⟨0, 1⟩, ⟨0, 2⟩] 1 s (by decide) (by decide +kernel) hs
  simp [again] at other

end Outline

end TemplatePaint
