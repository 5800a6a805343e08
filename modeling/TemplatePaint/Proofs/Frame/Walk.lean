import TemplatePaint.Frame

/-!
# Walks over the lines of a template

Two walks find a frame by indentation: one goes up from a line to the line that
opens the frame, the other goes down from there to the end of its block. This
module says what each of them does with one line, and what holds of the lines
that it passes:

* `openedOn_of_openAbove`: the line that is found is indented no deeper than any
  line that was passed;
* `le_blockEnd_iff`: a block goes on to a line just if all lines before it are
  indented deeper, and the next line that is not blank is or closes the block.
-/

namespace TemplatePaint

namespace Outline

variable {o : Outline} {line : Nat} {limit closed : Option Nat} {i : Nat}

/-! ## The way up, line by line -/

/-- A blank line is passed. -/
theorem openAbove_blank (h : o.index.indent? line = none) :
    o.openAbove (line + 1) limit closed = o.openAbove line limit closed := by
  rw [openAbove, h]

/-- A line that is indented deeper than the limit is passed. -/
theorem openAbove_deeper (h : o.index.indent? line = some i) (hl : limit.any (· < i) = true) :
    o.openAbove (line + 1) limit closed = o.openAbove line limit closed := by
  rw [openAbove, h]
  exact if_pos hl

/-- A line within the limit that opened what was closed below is passed. -/
theorem openAbove_closed (h : o.index.indent? line = some i) (hl : limit.any (· < i) = false) :
    o.openAbove (line + 1) limit (some i) = o.openAbove line (some i) none := by
  rw [openAbove, h]
  simp only [hl, Bool.false_eq_true, if_false, if_true]

/-- A line within the limit that closes a block is remembered. -/
theorem openAbove_closer (h : o.index.indent? line = some i) (hl : limit.any (· < i) = false)
    (hc : closed ≠ some i) (closes : closesBlock (o.index.shown line) = true) :
    o.openAbove (line + 1) limit closed = o.openAbove line (some i) (some i) := by
  rw [openAbove, h]
  simp only [hl, Bool.false_eq_true, if_false, if_neg hc, closes, if_true]

/-- A line within the limit that declares and opens a frame is found. -/
theorem openAbove_opener (h : o.index.indent? line = some i) (hl : limit.any (· < i) = false)
    (hc : closed ≠ some i) (closes : closesBlock (o.index.shown line) = false) {d : Span}
    (hd : o.declarationOn line = some d) (opens : opensFrame (o.index.shown line) = true) :
    o.openAbove (line + 1) limit closed = some (o.scope d line) := by
  rw [openAbove, h]
  simp only [hl, Bool.false_eq_true, if_false, if_neg hc, closes, hd, opens, if_true]

/-- Any other line within the limit becomes the limit. -/
theorem openAbove_other (h : o.index.indent? line = some i) (hl : limit.any (· < i) = false)
    (hc : closed ≠ some i) (closes : closesBlock (o.index.shown line) = false)
    (other : opensFrame (o.index.shown line) = true → o.declarationOn line = none) :
    o.openAbove (line + 1) limit closed = o.openAbove line (some i) none := by
  rw [openAbove, h]
  simp only [hl, Bool.false_eq_true, if_false, if_neg hc, closes]
  cases hd : o.declarationOn line with
  | none => rfl
  | some d =>
    have shut : opensFrame (o.index.shown line) ≠ true := fun h => by simp [other h] at hd
    simp only [if_neg shut]

/-! ## What is found on the way up -/

/-- The limit once a line was passed: its indentation, if that is within the limit before. -/
def limitAbove (o : Outline) (line : Nat) (limit : Option Nat) : Option Nat :=
  match o.index.indent? line with
  | none => limit
  | some i => if limit.any (· < i) then limit else some i

/-- A limit is never raised. -/
theorem limitAbove_le {l : Nat} (h : limit = some l) :
    ∃ l', o.limitAbove line limit = some l' ∧ l' ≤ l := by
  subst h
  rw [limitAbove]
  split
  · exact ⟨l, rfl, Nat.le_refl l⟩
  · rename_i i _
    split
    · exact ⟨l, rfl, Nat.le_refl l⟩
    · rename_i within
      refine ⟨i, rfl, ?_⟩
      simpa using within

/-- A line that was passed is indented no less than the limit from then on. -/
theorem limitAbove_le_indent (h : o.index.indent? line = some i) :
    ∃ l', o.limitAbove line limit = some l' ∧ l' ≤ i := by
  rw [limitAbove, h]
  dsimp only
  split
  · rename_i deeper
    obtain ⟨l, rfl, lt⟩ := (Option.any_eq_true _ _).1 deeper
    exact ⟨l, rfl, Nat.le_of_lt (of_decide_eq_true lt)⟩
  · exact ⟨i, rfl, Nat.le_refl i⟩

/-- A walk up that finds a frame finds it on the next line, or above that. -/
theorem openAbove_succ {s : FrameScope} (h : o.openAbove (line + 1) limit closed = some s) :
    (∃ i d, o.index.indent? line = some i ∧ limit.any (· < i) = false ∧
      o.declarationOn line = some d ∧ opensFrame (o.index.shown line) = true ∧
      s = o.scope d line) ∨
    ∃ closed', o.openAbove line (o.limitAbove line limit) closed' = some s := by
  rw [limitAbove]
  cases hi : o.index.indent? line with
  | none =>
    rw [openAbove_blank hi] at h
    exact .inr ⟨closed, h⟩
  | some i =>
    cases hl : limit.any (· < i) with
    | true =>
      rw [openAbove_deeper hi hl] at h
      refine .inr ⟨closed, ?_⟩
      simpa [hl] using h
    | false =>
      simp only [hl, Bool.false_eq_true, if_false]
      by_cases hc : closed = some i
      · rw [hc, openAbove_closed hi hl] at h
        exact .inr ⟨none, h⟩
      cases closes : closesBlock (o.index.shown line) with
      | true =>
        rw [openAbove_closer hi hl hc closes] at h
        exact .inr ⟨some i, h⟩
      | false =>
        by_cases opener : opensFrame (o.index.shown line) = true ∧ o.declarationOn line ≠ none
        · obtain ⟨d, hd⟩ := Option.ne_none_iff_exists'.1 opener.2
          rw [openAbove_opener hi hl hc closes hd opener.1] at h
          exact .inl ⟨i, d, rfl, hl, hd, opener.1, (Option.some.inj h).symm⟩
        · rw [openAbove_other hi hl hc closes fun opens =>
            Classical.byContradiction fun hd => opener ⟨opens, hd⟩] at h
          exact .inr ⟨none, h⟩

/-- The line `above` declares and opens the frame `s`, and no line between it and `line` is indented
less. -/
structure OpenedOn (o : Outline) (s : FrameScope) (above line : Nat) : Prop where
  lt : above < line
  scope_eq : ∃ d, o.declarationOn above = some d ∧ s = o.scope d above
  opens : opensFrame (o.index.shown above) = true
  shallow : ∃ base, o.index.indent? above = some base ∧
    ∀ l, above < l → l < line → ∀ i, o.index.indent? l = some i → base ≤ i

/-- A frame that is found on the way up is opened on a line above, which is indented no deeper than
the limit, nor than any line that was passed. -/
theorem openedOn_of_openAbove {s : FrameScope} (h : o.openAbove line limit closed = some s) :
    ∃ above, o.OpenedOn s above line ∧
      ∀ base, o.index.indent? above = some base → ∀ l, limit = some l → base ≤ l := by
  induction line generalizing limit closed with
  | zero => simp [openAbove] at h
  | succ line ih =>
    rcases openAbove_succ h with ⟨i, d, hi, hl, hd, opens, rfl⟩ | ⟨closed', h⟩
    · refine ⟨line, ⟨Nat.lt_succ_self _, ⟨d, hd, rfl⟩, opens, i, hi, fun l h₁ h₂ => by omega⟩, ?_⟩
      rintro base hb l rfl
      obtain rfl := Option.some.inj (hi.symm.trans hb)
      simpa using hl
    · obtain ⟨above, opened, within⟩ := ih h
      obtain ⟨base, hb, shallow⟩ := opened.shallow
      refine ⟨above, ⟨Nat.lt_succ_of_lt opened.lt, opened.scope_eq, opened.opens, base, hb, ?_⟩, ?_⟩
      · intro l hal hl i hi
        by_cases e : l = line
        · subst e
          obtain ⟨l', hl', hle⟩ := limitAbove_le_indent hi
          exact Nat.le_trans (within base hb l' hl') hle
        · exact shallow l hal (by omega) i hi
      · intro base' hb' l hl
        obtain ⟨l', hl', hle⟩ := limitAbove_le hl
        exact Nat.le_trans (within base' hb' l' hl') hle

/-! ## The way down -/

theorem le_blockEndFrom {base left next last : Nat} (h : last < next) :
    last ≤ o.blockEndFrom base left next last := by
  induction left generalizing next last with
  | zero => exact Nat.le_refl _
  | succ left ih =>
    rw [blockEndFrom]
    split
    · exact ih (by omega)
    · split
      · split <;> omega
      · exact Nat.le_trans (Nat.le_of_lt h) (ih (Nat.lt_succ_self _))

/-- The first line from `line` on that is not blank comes before the line `bound`, and is indented
deeper than `base`, or closes a block. -/
def GoesOn (o : Outline) (base line bound : Nat) : Prop :=
  ∃ next, line ≤ next ∧ next < bound ∧ (∀ l, line ≤ l → l < next → o.index.indent? l = none) ∧
    ∃ i, o.index.indent? next = some i ∧ (base < i ∨ closesBlock (o.index.shown next) = true)

/-- If all is blank from `line` up to `next`, the block goes on just if `next` says so. -/
theorem goesOn_iff {base next bound : Nat} (hle : line ≤ next) (hb : next < bound)
    (blank : ∀ l, line ≤ l → l < next → o.index.indent? l = none)
    (hi : o.index.indent? next = some i) :
    o.GoesOn base line bound ↔ base < i ∨ closesBlock (o.index.shown next) = true := by
  constructor
  · rintro ⟨n, h₁, -, before, i', hi', goes⟩
    have : n = next := by
      rcases Nat.lt_trichotomy n next with h | h | h
      · simp [blank n h₁ h] at hi'
      · exact h
      · simp [before next hle h] at hi
    subst this
    obtain rfl := Option.some.inj (hi.symm.trans hi')
    exact goes
  · exact fun goes => ⟨next, hle, hb, blank, i, hi, goes⟩

/-- A block goes on to a line behind what is known of it just if all lines before that line are
blank or indented deeper, and the next line that is not blank is, or closes the block. -/
theorem le_blockEndFrom_iff {base left next last : Nat} (hlast : last < next) (hline : last < line)
    (blank : ∀ l, line ≤ l → l < next → o.index.indent? l = none) :
    line ≤ o.blockEndFrom base left next last ↔
      (∀ l, next ≤ l → l < line → ∀ i, o.index.indent? l = some i → base < i) ∧
        o.GoesOn base line (next + left) := by
  induction left generalizing next last with
  | zero =>
    refine ⟨fun h => absurd h (by rw [blockEndFrom]; omega), ?_⟩
    rintro ⟨-, n, h₁, h₂, -, i, hi, -⟩
    simp [blank n h₁ h₂] at hi
  | succ left ih =>
    have bound : next + (left + 1) = next + 1 + left := by omega
    -- what holds of the lines from the next one on, and of the next one, holds of both
    have split (hi : ∀ i, o.index.indent? next = some i → base < i) :
        (∀ l, next ≤ l → l < line → ∀ i, o.index.indent? l = some i → base < i) ↔
          ∀ l, next + 1 ≤ l → l < line → ∀ i, o.index.indent? l = some i → base < i := by
      refine ⟨fun h l h₁ => h l (by omega), fun h l h₁ h₂ i hl => ?_⟩
      by_cases e : l = next
      · exact hi i (e ▸ hl)
      · exact h l (by omega) h₂ i hl
    cases hi : o.index.indent? next with
    | none =>
      have skip : o.blockEndFrom base (left + 1) next last =
          o.blockEndFrom base left (next + 1) last := by
        rw [blockEndFrom, hi]
      rw [skip, ih (by omega) hline, bound, split (by simp [hi])]
      intro l h₁ h₂
      by_cases e : l = next
      · exact e ▸ hi
      · exact blank l h₁ (by omega)
    | some i =>
      by_cases deeper : base < i
      · have skip : o.blockEndFrom base (left + 1) next last =
            o.blockEndFrom base left (next + 1) next := by
          rw [blockEndFrom, hi]
          exact if_neg (by omega)
        rw [skip]
        by_cases hn : next < line
        · rw [ih (by omega) hn (fun l h₁ h₂ => by omega), bound, split (by simp [hi, deeper])]
        · have reached : next ≤ o.blockEndFrom base left (next + 1) next :=
            le_blockEndFrom (Nat.lt_succ_self next)
          refine ⟨fun _ => ⟨fun l h₁ h₂ => by omega, ?_⟩, fun _ => by omega⟩
          exact (goesOn_iff (by omega) (by omega) blank hi).2 (.inl deeper)
      · have stop : o.blockEndFrom base (left + 1) next last =
            if closesBlock (o.index.shown next) then next else last := by
          rw [blockEndFrom, hi]
          exact if_pos (by omega)
        rw [stop]
        by_cases hn : next < line
        · refine ⟨fun h => ?_, fun h => absurd (h.1 next (Nat.le_refl _) hn i hi) deeper⟩
          split at h <;> omega
        · rw [goesOn_iff (by omega) (by omega) blank hi]
          by_cases closes : closesBlock (o.index.shown next) = true
          · rw [if_pos closes]
            exact ⟨fun _ => ⟨fun l h₁ h₂ => by omega, .inr closes⟩, fun _ => by omega⟩
          · rw [if_neg closes]
            exact ⟨fun h => by omega, fun h => (h.2.elim deeper closes).elim⟩

theorem lt_count_of_indent? (h : o.index.indent? line = some i) : line < o.index.count := by
  obtain ⟨l, hl, -⟩ := Option.bind_eq_some_iff.1 h
  exact (Array.getElem?_eq_some_iff.1 hl).1

/-- The block of a frame on which no fold starts goes on to a line below just if all lines between
are blank or indented deeper than the frame, and the next line that is not blank is, or closes the
block. -/
theorem le_blockEnd_iff {above base : Nat} (unbounded : o.foldEnd? above = none)
    (opens : opensFrame (o.index.shown above) = true) (hb : o.index.indent? above = some base)
    (lt : above < line) :
    line ≤ o.blockEnd above ↔
      (∀ l, above < l → l < line → ∀ i, o.index.indent? l = some i → base < i) ∧
        o.GoesOn base line o.index.count := by
  have inside := lt_count_of_indent? hb
  -- the walk starts on a line of the text, so it has all lines below left
  have all : above + 1 + (o.index.count - (above + 1)) = o.index.count := by omega
  rw [blockEnd, unbounded]
  simp only [opens, if_true, hb, Option.getD_some]
  rw [le_blockEndFrom_iff (Nat.lt_succ_self above) lt fun l h₁ h₂ => by omega, all]
  rfl

end Outline

end TemplatePaint
