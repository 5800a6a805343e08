import Mathlib.Data.List.Pairwise
import TemplatePaint.Proofs.Frame.Folds
import TemplatePaint.Proofs.Frame.Walk
import TemplatePaint.Proofs.Pattern.Ways

/-!
# Templates that are printed from a forest

In a well-nested template the lines of a forest are leaves and blocks, all
indented alike, and the contents of a block are indented deeper than the
lines around them (`Outline.Printed`). What holds of such lines:

* `Printed.bounds`, `Printed.deep`, `Printed.ascending`: the blocks lie within
  the lines, no line is indented less than the forest, and no two blocks start
  together;
* `Printed.isFrame`: a frame block is bounded by its indentation, so
  `blockEnd_eq` finds its closing line, by the folds or without them;
* `Printed.exists_block`: a declaration on a line that opens a frame opens a
  block, so any other one is found as a line alone (`blockEnd_of_forall_ne`).
-/

namespace TemplatePaint

/-- A blank line opens no frame. -/
theorem opensFrame_of_blank {line : List Char} (blank : line.all isBlank = true) :
    opensFrame line = false := by
  have missing (c : Char) (hc : isBlank c = false) : c ∉ line := fun hm => by
    simp [List.all_eq_true.1 blank c hm] at hc
  rw [opensFrame, opensBlock, String.toList_ofList, mentions,
    Pattern.not_occursIn_of_needs (p := Rule.blockOpener) (by decide) (missing 'd' (by decide)),
    Pattern.not_occursIn_of_needs (p := Pattern.word "<turbo-frame") (by decide)
      (missing '<' (by decide))]
  rfl

namespace Outline

variable {o : Outline} {line : Nat}

theorem opensFrame_of_indent? (blank : o.index.indent? line = none) :
    opensFrame (o.index.shown line) = false := by
  rw [LineIndex.indent?] at blank
  rw [LineIndex.shown, LineIndex.shown?]
  cases hl : o.index.lines[line]? with
  | none => exact opensFrame_of_blank rfl
  | some l =>
    refine opensFrame_of_blank ?_
    rw [hl, Option.bind_some, Line.indent?] at blank
    simpa using blank

/-- The line neither closes a block nor opens a frame that it declares. -/
structure IsLeaf (o : Outline) (indent line : Nat) : Prop where
  indented : o.index.indent? line = some indent
  stays : closesBlock (o.index.shown line) = false
  unopened : opensFrame (o.index.shown line) = true → o.declarationOn line = none

/-- The line opens a block: one that is framed declares and opens a frame, another declares none. -/
structure IsOpener (o : Outline) (framed : Bool) (indent line : Nat) : Prop where
  indented : o.index.indent? line = some indent
  stays : closesBlock (o.index.shown line) = false
  declared : (o.declarationOn line).isSome = framed
  opens : framed = true → opensFrame (o.index.shown line) = true

/-- The line stands between two branches of a block. -/
structure IsMiddle (o : Outline) (indent line : Nat) : Prop where
  indented : o.index.indent? line = some indent
  stays : closesBlock (o.index.shown line) = false
  undeclared : o.declarationOn line = none

/-- The line closes a block. -/
structure IsCloser (o : Outline) (indent line : Nat) : Prop where
  indented : o.index.indent? line = some indent
  closes : closesBlock (o.index.shown line) = true
  undeclared : o.declarationOn line = none

instance {i line : Nat} : Decidable (o.IsLeaf i line) :=
  decidable_of_iff (_ ∧ _ ∧ _) ⟨fun ⟨a, b, c⟩ => ⟨a, b, c⟩, fun ⟨a, b, c⟩ => ⟨a, b, c⟩⟩

instance {framed : Bool} {i line : Nat} : Decidable (o.IsOpener framed i line) :=
  decidable_of_iff (_ ∧ _ ∧ _ ∧ _) ⟨fun ⟨a, b, c, d⟩ => ⟨a, b, c, d⟩, fun ⟨a, b, c, d⟩ => ⟨a, b, c, d⟩⟩

instance {i line : Nat} : Decidable (o.IsMiddle i line) :=
  decidable_of_iff (_ ∧ _ ∧ _) ⟨fun ⟨a, b, c⟩ => ⟨a, b, c⟩, fun ⟨a, b, c⟩ => ⟨a, b, c⟩⟩

instance {i line : Nat} : Decidable (o.IsCloser i line) :=
  decidable_of_iff (_ ∧ _ ∧ _) ⟨fun ⟨a, b, c⟩ => ⟨a, b, c⟩, fun ⟨a, b, c⟩ => ⟨a, b, c⟩⟩

/-- What lines are printed from: a forest, or the contents of a block that is framed or is not. -/
inductive Part where
  | forest
  | contents (framed : Bool)

/-- The lines from `first` up to, and not including, `next` are printed from a part; a forest has
the given indentation, and contents are those of a block that has it. The blocks of the part are
listed, from the opening to the closing line of each, in the order in which they open. -/
inductive Printed (o : Outline) : Part → (indent first next : Nat) → List LineRange → Prop where
  /-- The end of a forest. -/
  | nil {i a} : Printed o .forest i a a []
  /-- A blank line may stand anywhere. -/
  | blank {i a b bs} : o.index.indent? a = none → Printed o .forest i (a + 1) b bs →
      Printed o .forest i a b bs
  /-- A leaf. -/
  | leaf {i a b bs} : o.IsLeaf i a → Printed o .forest i (a + 1) b bs → Printed o .forest i a b bs
  /-- A block: its opening line, its contents, and its closing line. -/
  | block {framed i a m b inner later} : o.IsOpener framed i a →
      Printed o (.contents framed) i (a + 1) m inner → o.IsCloser i m →
      Printed o .forest i (m + 1) b later → Printed o .forest i a b (⟨a, m⟩ :: (inner ++ later))
  /-- The last branch of a block, or its only one, is a forest that is indented deeper. -/
  | last {framed i j a m bs} : i < j → Printed o .forest j a m bs →
      Printed o (.contents framed) i a m bs
  /-- A branch that is not the last. A framed block has none. -/
  | branch {i j a n m inner later} : i < j → Printed o .forest j a n inner → o.IsMiddle i n →
      Printed o (.contents false) i (n + 1) m later →
      Printed o (.contents false) i a m (inner ++ later)

variable {part : Part} {i first next : Nat} {blocks : List LineRange}

theorem IsMiddle.isLeaf (h : o.IsMiddle i line) : o.IsLeaf i line :=
  ⟨h.indented, h.stays, fun _ => h.undeclared⟩

theorem IsOpener.isLeaf (h : o.IsOpener false i line) : o.IsLeaf i line :=
  ⟨h.indented, h.stays, fun _ => by simpa using h.declared⟩

/-! ## The lines and the blocks of a part -/

namespace Printed

/-- The blocks lie within the lines. -/
theorem bounds (h : o.Printed part i first next blocks) :
    first ≤ next ∧ ∀ r ∈ blocks, first ≤ r.first ∧ r.first < r.last ∧ r.last < next := by
  have widen {a a' b b' : Nat} {bs : List LineRange} (ha : a' ≤ a) (hb : b ≤ b')
      (h : ∀ r ∈ bs, a ≤ r.first ∧ r.first < r.last ∧ r.last < b) :
      ∀ r ∈ bs, a' ≤ r.first ∧ r.first < r.last ∧ r.last < b' := fun r hr => by
    have := h r hr
    omega
  induction h with
  | nil => simp
  | blank _ _ ih => exact ⟨by omega, widen (by omega) (Nat.le_refl _) ih.2⟩
  | leaf _ _ ih => exact ⟨by omega, widen (by omega) (Nat.le_refl _) ih.2⟩
  | block _ _ _ _ inner later =>
    refine ⟨by omega, List.forall_mem_cons.2 ⟨by dsimp only; omega, ?_⟩⟩
    exact List.forall_mem_append.2
      ⟨widen (by omega) (by omega) inner.2, widen (by omega) (Nat.le_refl _) later.2⟩
  | last _ _ ih => exact ih
  | branch _ _ _ _ inner later =>
    refine ⟨by omega, List.forall_mem_append.2 ⟨?_, ?_⟩⟩
    · exact widen (Nat.le_refl _) (by omega) inner.2
    · exact widen (by omega) (Nat.le_refl _) later.2

/-- The blocks of a part are around lines of the part only. -/
theorem mem_lines (h : o.Printed part i first next blocks) {r : LineRange} (hr : r ∈ blocks)
    (around : r.contains line = true) : first ≤ line ∧ line < next := by
  have := h.bounds.2 r hr
  have := LineRange.contains_iff.1 around
  omega

/-- No line is indented less than the part. -/
theorem deep (h : o.Printed part i first next blocks) {k : Nat} (h₁ : first ≤ line)
    (h₂ : line < next) (hk : o.index.indent? line = some k) : i ≤ k := by
  have same {i a : Nat} (hi : o.index.indent? a = some i) (e : line = a) : i ≤ k :=
    Nat.le_of_eq (Option.some.inj (hi.symm.trans (e ▸ hk)))
  induction h with
  | nil => omega
  | @blank _ a _ _ blank _ ih =>
    by_cases e : line = a
    · simp [← e, hk] at blank
    · exact ih (by omega) h₂
  | @leaf _ a _ _ leaf _ ih =>
    by_cases e : line = a
    · exact same leaf.indented e
    · exact ih (by omega) h₂
  | @block _ _ a m _ _ _ opener _ closer _ inner later =>
    by_cases e : line = a
    · exact same opener.indented e
    by_cases e : line = m
    · exact same closer.indented e
    by_cases lt : line < m
    · exact inner (by omega) lt
    · exact later (by omega) h₂
  | last lt _ ih => exact Nat.le_trans (Nat.le_of_lt lt) (ih h₁ h₂)
  | @branch _ _ _ n _ _ _ lt _ middle _ inner later =>
    by_cases e : line = n
    · exact same middle.indented e
    by_cases before : line < n
    · exact Nat.le_trans (Nat.le_of_lt lt) (inner h₁ before)
    · exact later (by omega) h₂

/-- All contents of a framed block are indented deeper than the block. -/
theorem deeper (h : o.Printed (.contents true) i first next blocks) {k : Nat} (h₁ : first ≤ line)
    (h₂ : line < next) (hk : o.index.indent? line = some k) : i < k := by
  cases h with
  | last lt forest => exact Nat.lt_of_lt_of_le lt (forest.deep h₁ h₂ hk)

/-- The blocks are listed in the order in which they open. -/
theorem ascending (h : o.Printed part i first next blocks) :
    blocks.Pairwise fun r s => r.first < s.first := by
  induction h with
  | nil => exact .nil
  | blank _ _ ih => exact ih
  | leaf _ _ ih => exact ih
  | block _ contents _ forest inner later =>
    have within := contents.bounds
    have behind := forest.bounds
    refine List.pairwise_cons.2 ⟨fun r hr => ?_, List.pairwise_append.2 ⟨inner, later, ?_⟩⟩
    · rcases List.mem_append.1 hr with hr | hr
      · have := within.2 r hr
        dsimp only
        omega
      · have := behind.2 r hr
        dsimp only
        omega
    · intro r hr s hs
      have := within.2 r hr
      have := behind.2 s hs
      omega
  | last _ _ ih => exact ih
  | branch _ forest _ contents inner later =>
    refine List.pairwise_append.2 ⟨inner, later, fun r hr s hs => ?_⟩
    have := forest.bounds.2 r hr
    have := contents.bounds.2 s hs
    omega

/-- No two blocks start together. -/
theorem eq_of_first_eq (h : o.Printed part i first next blocks) {r s : LineRange} (hr : r ∈ blocks)
    (hs : s ∈ blocks) (e : r.first = s.first) : r = s := by
  have apart : blocks.Pairwise fun r s => r.first = s.first → r = s :=
    h.ascending.imp fun lt e => absurd e (Nat.ne_of_lt lt)
  have : Std.Symm fun r s : LineRange => r.first = s.first → r = s :=
    ⟨fun _ _ h e => (h e.symm).symm⟩
  exact apart.forall_of_forall (fun _ _ _ => rfl) hr hs e

end Printed

/-! ## Frames -/

/-- The opening and the closing line of a block that is a frame, and nothing outside of the frame
between them. -/
structure IsFrame (o : Outline) (r : LineRange) : Prop where
  opens : opensFrame (o.index.shown r.first) = true
  closes : closesBlock (o.index.shown r.last) = true
  deeper : ∃ i, o.index.indent? r.first = some i ∧ o.index.indent? r.last = some i ∧
    ∀ l, r.first < l → l < r.last → ∀ k, o.index.indent? l = some k → i < k

namespace Printed

/-- A block whose opening line has a declaration is a frame. -/
theorem isFrame (h : o.Printed part i first next blocks) {r : LineRange} (hr : r ∈ blocks)
    (declared : (o.declarationOn r.first).isSome = true) : IsFrame o r := by
  induction h with
  | nil => simp at hr
  | blank _ _ ih => exact ih hr
  | leaf _ _ ih => exact ih hr
  | block opener contents closer _ inner later =>
    rcases List.mem_cons.1 hr with rfl | hr
    · obtain rfl := opener.declared.symm.trans declared
      exact ⟨opener.opens rfl, closer.closes, _, opener.indented, closer.indented,
        fun l h₁ h₂ k hk => contents.deeper h₁ h₂ hk⟩
    · exact (List.mem_append.1 hr).elim inner later
  | last _ _ ih => exact ih hr
  | branch _ _ _ _ inner later => exact (List.mem_append.1 hr).elim inner later

/-- A line that has a declaration and opens a frame is the opening line of a block. -/
theorem exists_block (h : o.Printed part i first next blocks) (h₁ : first ≤ line) (h₂ : line < next)
    (declared : (o.declarationOn line).isSome = true)
    (opens : opensFrame (o.index.shown line) = true) : ∃ r ∈ blocks, r.first = line := by
  induction h with
  | nil => omega
  | @blank _ a _ _ blank _ ih =>
    by_cases e : line = a
    · simp [e, opensFrame_of_indent? blank] at opens
    · exact ih (by omega) h₂
  | @leaf _ a _ _ leaf _ ih =>
    by_cases e : line = a
    · subst e
      simp [leaf.unopened opens] at declared
    · exact ih (by omega) h₂
  | @block _ _ a m _ _ _ opener _ closer _ inner later =>
    by_cases e : line = a
    · exact ⟨_, List.mem_cons_self, e.symm⟩
    by_cases e : line = m
    · simp [e, closer.undeclared] at declared
    by_cases lt : line < m
    · obtain ⟨r, hr, start⟩ := inner (by omega) lt
      exact ⟨r, List.mem_cons_of_mem _ (List.mem_append_left _ hr), start⟩
    · obtain ⟨r, hr, start⟩ := later (by omega) h₂
      exact ⟨r, List.mem_cons_of_mem _ (List.mem_append_right _ hr), start⟩
  | last _ _ ih => exact ih h₁ h₂
  | @branch _ _ _ n _ _ _ _ _ middle _ inner later =>
    by_cases e : line = n
    · simp [e, middle.undeclared] at declared
    by_cases lt : line < n
    · obtain ⟨r, hr, start⟩ := inner h₁ lt
      exact ⟨r, List.mem_append_left _ hr, start⟩
    · obtain ⟨r, hr, start⟩ := later (by omega) h₂
      exact ⟨r, List.mem_append_right _ hr, start⟩

end Printed

/-! ## The end of a block -/

/-- By indentation, a frame ends at its closing line. -/
theorem IsFrame.blockEnd_eq {r : LineRange} (frame : IsFrame o r) (lt : r.first < r.last)
    (unbounded : o.foldEnd? r.first = none) : o.blockEnd r.first = r.last := by
  obtain ⟨i, opener, closer, deeper⟩ := frame.deeper
  have inside := lt_count_of_indent? closer
  have reaches : r.last ≤ o.blockEnd r.first := by
    refine (le_blockEnd_iff unbounded frame.opens opener lt).2 ⟨deeper, ?_⟩
    exact (goesOn_iff (Nat.le_refl _) inside (fun l h₁ h₂ => by omega) closer).2 (.inr frame.closes)
  have stops : ¬r.last + 1 ≤ o.blockEnd r.first := fun h => by
    have behind := (le_blockEnd_iff unbounded frame.opens opener (by omega)).1 h
    exact Nat.lt_irrefl i (behind.1 r.last lt (Nat.lt_succ_self _) i closer)
  omega

namespace Printed

variable (h : o.Printed part i first next blocks)
include h

/-- A fold for each block bounds that block. -/
theorem foldEnd?_eq (folds : o.folds.Perm blocks) {r : LineRange} (hr : r ∈ blocks) :
    o.foldEnd? r.first = some r.last := by
  cases hf : o.foldEnd? r.first with
  | none => exact absurd rfl (foldEnd?_eq_none hf r (folds.mem_iff.2 hr))
  | some last =>
    obtain ⟨⟨s, hs, start, stop⟩, -⟩ := foldEnd?_eq_some hf
    rw [← h.eq_of_first_eq (folds.mem_iff.1 hs) hr start, stop]

/-- The block of a frame ends at its closing line, with a fold for each block or without folds. -/
theorem blockEnd_eq (folds : o.folds = [] ∨ o.folds.Perm blocks) {r : LineRange} (hr : r ∈ blocks)
    (declared : (o.declarationOn r.first).isSome = true) : o.blockEnd r.first = r.last := by
  rcases folds with none | folds
  · exact (h.isFrame hr declared).blockEnd_eq (h.bounds.2 r hr).2.1 (by simp [foldEnd?, none])
  · rw [blockEnd, h.foldEnd?_eq folds hr]

/-- A declaration that opens no block is one line. -/
theorem blockEnd_of_forall_ne (folds : o.folds = [] ∨ o.folds.Perm blocks) (h₁ : first ≤ line)
    (h₂ : line < next) (declared : (o.declarationOn line).isSome = true)
    (alone : ∀ r ∈ blocks, r.first ≠ line) : o.blockEnd line = line := by
  have shut : opensFrame (o.index.shown line) ≠ true := fun opens => by
    obtain ⟨r, hr, start⟩ := h.exists_block h₁ h₂ declared opens
    exact alone r hr start
  cases hf : o.foldEnd? line with
  | none =>
    rw [blockEnd, hf]
    exact if_neg shut
  | some last =>
    obtain ⟨⟨r, hr, start, -⟩, -⟩ := foldEnd?_eq_some hf
    rcases folds with none | folds
    · simp [none] at hr
    · exact absurd start (alone r (folds.mem_iff.1 hr))

end Printed

end Outline

end TemplatePaint
