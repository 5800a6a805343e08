import TemplatePaint.Proofs.Frame.Nested
import TemplatePaint.Span.Stream

/-!
# Frames of well-nested templates

In a template that is printed from a forest, the frame that is found around a
line is the innermost frame block around it: `enclosing_of_printed`. The walk
up passes a block from its closing to its opening line (`openAbove_block`), so
from a line of a part it finds the innermost frame of the part, or leaves the
part above its first line (`finds_or_leaves`).
-/

namespace TemplatePaint

namespace Outline

variable {o : Outline} {part : Part} {framed : Bool} {i first next line : Nat}
  {limit closed : Option Nat} {blocks inner : List LineRange} {r : LineRange}

/-! ## Passing lines and blocks -/

/-- A line with this indentation is within the limit. -/
def Within (i : Nat) (limit : Option Nat) : Prop := ∀ l, limit = some l → i ≤ l

theorem Within.any_eq_false (h : Within i limit) : limit.any (· < i) = false := by
  cases limit with
  | none => rfl
  | some l => simpa using h l rfl

theorem within_some (i : Nat) : Within i (some i) := fun _ h => Nat.le_of_eq (Option.some.inj h)

theorem Within.mono {j : Nat} (h : Within j limit) (le : i ≤ j) : Within i limit :=
  fun l hl => Nat.le_trans le (h l hl)

/-- Lines that are all indented deeper than the limit are passed. -/
theorem openAbove_skip (le : first ≤ next)
    (deeper : ∀ l, first ≤ l → l < next → ∀ k, o.index.indent? l = some k → i < k) :
    o.openAbove next (some i) closed = o.openAbove first (some i) closed := by
  induction next with
  | zero => rw [Nat.le_zero.1 le]
  | succ next ih =>
    by_cases e : first = next + 1
    · rw [e]
    have up := ih (by omega) fun l h₁ h₂ => deeper l h₁ (by omega)
    cases hk : o.index.indent? next with
    | none => rw [openAbove_blank hk, up]
    | some k =>
      have beyond : (some i).any (· < k) = true := by
        simpa using deeper next (by omega) (Nat.lt_succ_self next) k hk
      rw [openAbove_deeper hk beyond, up]

/-- A leaf becomes the limit, and nothing is closed any more. -/
theorem openAbove_leaf (leaf : o.IsLeaf i line) (within : Within i limit)
    (hc : closed = none ∨ closed = some i) :
    o.openAbove (line + 1) limit closed = o.openAbove line (some i) none := by
  rcases hc with rfl | rfl
  · exact openAbove_other leaf.indented within.any_eq_false (by simp) leaf.stays leaf.unopened
  · exact openAbove_closed leaf.indented within.any_eq_false

/-- The contents of a block are passed; those of a framed one leave what is closed as it is. -/
theorem openAbove_contents (h : o.Printed (.contents framed) i first next blocks)
    (hc : closed = none ∨ closed = some i) :
    ∃ closed', (closed' = none ∨ closed' = some i) ∧ (framed = true → closed' = closed) ∧
      o.openAbove next (some i) closed = o.openAbove first (some i) closed' := by
  generalize hp : Part.contents framed = part at h
  induction h with
  | nil | blank | leaf | block => cases hp
  | last lt forest =>
    refine ⟨closed, hc, fun _ => rfl, openAbove_skip forest.bounds.1 fun l h₁ h₂ k hk => ?_⟩
    exact Nat.lt_of_lt_of_le lt (forest.deep h₁ h₂ hk)
  | branch lt forest middle _ _ later =>
    cases hp
    obtain ⟨closed', hc', -, up⟩ := later hc rfl
    refine ⟨none, .inl rfl, by simp, ?_⟩
    rw [up, openAbove_leaf middle.isLeaf (within_some _) hc']
    exact openAbove_skip forest.bounds.1 fun l h₁ h₂ k hk =>
      Nat.lt_of_lt_of_le lt (forest.deep h₁ h₂ hk)

/-- A block is passed: its closing line is remembered up to its opening line, or to a line between
two of its branches. -/
theorem openAbove_block {a m : Nat} (opener : o.IsOpener framed i a)
    (contents : o.Printed (.contents framed) i (a + 1) m inner) (closer : o.IsCloser i m)
    (within : Within i limit) :
    o.openAbove (m + 1) limit none = o.openAbove a (some i) none := by
  obtain ⟨closed, hc, same, up⟩ := openAbove_contents contents (.inr rfl)
  rw [openAbove_closer closer.indented within.any_eq_false (by simp) closer.closes, up]
  cases framed with
  | true =>
    rw [same rfl]
    exact openAbove_closed opener.indented (within_some i).any_eq_false
  | false => exact openAbove_leaf opener.isLeaf (within_some i) hc

/-! ## The innermost frame -/

/-- The block is a frame around the line, and inner to all other frames around it. -/
structure IsInnermost (o : Outline) (blocks : List LineRange) (line : Nat) (r : LineRange) :
    Prop where
  mem : r ∈ blocks
  around : r.contains line = true
  declared : (o.declarationOn r.first).isSome = true
  inner : ∀ s ∈ blocks, s.contains line = true → (o.declarationOn s.first).isSome = true →
    IsInner s r

/-- No block around the line is a frame. -/
def Unframed (o : Outline) (blocks : List LineRange) (line : Nat) : Prop :=
  ∀ r ∈ blocks, r.contains line = true → o.declarationOn r.first = none

theorem Unframed.append {later : List LineRange} (h : o.Unframed inner line)
    (h' : o.Unframed later line) : o.Unframed (inner ++ later) line :=
  List.forall_mem_append.2 ⟨h, h'⟩

/-- No block is around the line. -/
def Apart (blocks : List LineRange) (line : Nat) : Prop :=
  ∀ r ∈ blocks, ¬r.contains line = true

theorem Apart.unframed (h : Apart blocks line) : o.Unframed blocks line :=
  fun r hr around => absurd around (h r hr)

/-- No block of a part is around a line that is not of the part. -/
theorem Printed.apart (h : o.Printed part i first next blocks) (line : Nat)
    (out : line < first ∨ next ≤ line) : Apart blocks line := fun r hr around => by
  have := h.mem_lines hr around
  omega

/-- The walk up from the line finds the innermost frame around it. -/
def Finds (o : Outline) (blocks : List LineRange) (line : Nat) : Prop :=
  ∃ r d, o.IsInnermost blocks line r ∧ o.declarationOn r.first = some d ∧
    o.openAbove line (o.index.indent? line) none = some (o.scope d r.first)

/-- The frame that is found stays the innermost among more blocks, if those around the line start
before the others. -/
theorem Finds.mono (h : o.Finds inner line) (sub : inner ⊆ blocks)
    (outer : ∀ s ∈ blocks, s.contains line = true → s ∈ inner ∨ ∀ r ∈ inner, s.first < r.first) :
    o.Finds blocks line := by
  obtain ⟨r, d, innermost, hd, found⟩ := h
  refine ⟨r, d, ⟨sub innermost.mem, innermost.around, innermost.declared, ?_⟩, hd, found⟩
  intro s hs around declared
  rcases outer s hs around with hs | outer
  · exact innermost.inner s hs around declared
  · exact .inl (outer r innermost.mem)

theorem Finds.append_left {later : List LineRange} (h : o.Finds inner line)
    (apart : Apart later line) : o.Finds (inner ++ later) line :=
  h.mono (List.subset_append_left _ _) fun s hs around =>
    .inl ((List.mem_append.1 hs).resolve_right fun hs => apart s hs around)

theorem Finds.append_right {later : List LineRange} (h : o.Finds later line)
    (apart : Apart inner line) : o.Finds (inner ++ later) line :=
  h.mono (List.subset_append_right _ _) fun s hs around =>
    .inl ((List.mem_append.1 hs).resolve_left fun hs => apart s hs around)

theorem Finds.cons (h : o.Finds blocks line)
    (outer : r.contains line = true → ∀ s ∈ blocks, r.first < s.first) :
    o.Finds (r :: blocks) line := by
  refine h.mono (List.subset_cons_self _ _) fun s hs around => ?_
  rcases List.mem_cons.1 hs with rfl | hs
  · exact .inr (outer around)
  · exact .inl hs

/-- No frame is around the line, and the walk up from it goes on above `first`, where lines with the
indentation `i` are still within the limit. -/
def Leaves (o : Outline) (blocks : List LineRange) (i first line : Nat) : Prop :=
  o.Unframed blocks line ∧ ∃ limit, Within i limit ∧
    o.openAbove line (o.index.indent? line) none = o.openAbove first limit none

section Block

variable {a m : Nat} {later : List LineRange}

/-- From the first line of the contents of a block, the walk up finds the block if it is framed, and
else leaves it. -/
theorem finds_or_leaves_of_opener (opener : o.IsOpener framed i a)
    (unframed : o.Unframed blocks line) (above : a < line) (below : line ≤ m)
    (within : Within i limit) (hc : closed = none ∨ closed = some i)
    (unclosed : framed = true → closed = none)
    (up : o.openAbove line (o.index.indent? line) none = o.openAbove (a + 1) limit closed) :
    o.Finds (⟨a, m⟩ :: blocks) line ∨ o.Leaves (⟨a, m⟩ :: blocks) i a line := by
  cases framed with
  | true =>
    obtain ⟨d, hd⟩ := Option.isSome_iff_exists.1 opener.declared
    have found : o.openAbove (a + 1) limit none = some (o.scope d a) :=
      openAbove_opener opener.indented within.any_eq_false (by simp) opener.stays hd
        (opener.opens rfl)
    refine .inl ⟨⟨a, m⟩, d, ⟨List.mem_cons_self, ?_, opener.declared, ?_⟩, hd, ?_⟩
    · exact LineRange.contains_iff.2 ⟨Nat.le_of_lt above, below⟩
    · intro s hs around declared
      rcases List.mem_cons.1 hs with rfl | hs
      · exact .refl _
      · simp [unframed s hs around] at declared
    · rw [up, unclosed rfl, found]
  | false =>
    refine .inr ⟨fun s hs around => ?_, some i, within_some i, ?_⟩
    · rcases List.mem_cons.1 hs with rfl | hs
      · exact Option.isNone_iff_eq_none.1 (by simpa using opener.declared)
      · exact unframed s hs around
    · rw [up, openAbove_leaf opener.isLeaf within hc]

variable (opener : o.IsOpener framed i a) (contents : o.Printed (.contents framed) i (a + 1) m inner)
  (closer : o.IsCloser i m) (forest : o.Printed .forest i (m + 1) next later)
include opener contents forest

/-- The opening line of a block that has no declaration is the limit from then on. -/
theorem leaves_opener (undeclared : o.declarationOn a = none) :
    o.Leaves (⟨a, m⟩ :: (inner ++ later)) i a a := by
  have := contents.bounds
  have before := contents.apart a (.inl (by omega))
  have behind := forest.apart a (.inl (by omega))
  refine ⟨List.forall_mem_cons.2 ⟨fun _ => undeclared, before.unframed.append behind.unframed⟩,
    some i, within_some i, ?_⟩
  rw [opener.indented]

/-- From a line of the contents, the walk up finds a frame of the contents or the block, or leaves
the block. -/
theorem finds_or_leaves_of_contents (h₁ : a < line) (h₂ : line < m)
    (h : o.Finds inner line ∨ o.Leaves inner i (a + 1) line) :
    o.Finds (⟨a, m⟩ :: (inner ++ later)) line ∨ o.Leaves (⟨a, m⟩ :: (inner ++ later)) i a line := by
  have behind := forest.apart line (.inl (by omega))
  rcases h with finds | ⟨unframed, limit, within, up⟩
  · refine .inl ((finds.append_left behind).cons fun _ => List.forall_mem_append.2 ⟨?_, ?_⟩)
    · exact fun s hs => (contents.bounds.2 s hs).1
    · intro s hs
      have := forest.bounds.2 s hs
      dsimp only
      omega
  · exact finds_or_leaves_of_opener opener (unframed.append behind.unframed) h₁ (Nat.le_of_lt h₂)
      within (.inl rfl) (fun _ => rfl) up

include closer

/-- From the closing line, the walk up passes the contents. -/
theorem finds_or_leaves_of_closer :
    o.Finds (⟨a, m⟩ :: (inner ++ later)) m ∨ o.Leaves (⟨a, m⟩ :: (inner ++ later)) i a m := by
  have := contents.bounds
  have before := contents.apart m (.inr (Nat.le_refl m))
  have behind := forest.apart m (.inl (Nat.lt_succ_self m))
  obtain ⟨closed, hc, same, up⟩ := openAbove_contents contents (.inl rfl)
  refine finds_or_leaves_of_opener opener (before.unframed.append behind.unframed) (by omega)
    (Nat.le_refl m) (within_some i) hc same ?_
  rw [closer.indented, up]

omit forest in
/-- From a line behind a block, the walk up passes the block. -/
theorem finds_or_leaves_of_behind (h₁ : m < line)
    (h : o.Finds later line ∨ o.Leaves later i (m + 1) line) :
    o.Finds (⟨a, m⟩ :: (inner ++ later)) line ∨ o.Leaves (⟨a, m⟩ :: (inner ++ later)) i a line := by
  have out : ¬(⟨a, m⟩ : LineRange).contains line = true := fun around => by
    have := (LineRange.contains_iff.1 around).2
    dsimp only at this
    omega
  have before := contents.apart line (.inr (by omega))
  refine h.imp (fun finds => (finds.append_right before).cons fun around => absurd around out) ?_
  rintro ⟨unframed, limit, within, up⟩
  refine ⟨List.forall_mem_cons.2 ⟨fun around => absurd around out, before.unframed.append unframed⟩,
    some i, within_some i, ?_⟩
  rw [up, openAbove_block opener contents closer within]

end Block

section Branch

variable {n m j : Nat} {later : List LineRange}
variable (lt : i < j) (forest : o.Printed .forest j first n inner) (middle : o.IsMiddle i n)
  (contents : o.Printed (.contents false) i (n + 1) m later)
include lt forest contents

omit forest in
/-- From a line of a branch, the walk up finds a frame of the branch, or leaves it. -/
theorem finds_or_leaves_of_branch (h₂ : line < n)
    (h : o.Finds inner line ∨ o.Leaves inner j first line) :
    o.Finds (inner ++ later) line ∨ o.Leaves (inner ++ later) i first line := by
  have behind := contents.apart line (.inl (by omega))
  refine h.imp (fun finds => finds.append_left behind) ?_
  rintro ⟨unframed, limit, within, up⟩
  exact ⟨unframed.append behind.unframed, limit, within.mono (Nat.le_of_lt lt), up⟩

include middle

/-- The line behind a branch is the limit from then on, and the branch is passed. -/
theorem leaves_middle : o.Leaves (inner ++ later) i first n := by
  have before := forest.apart n (.inr (Nat.le_refl n))
  have behind := contents.apart n (.inl (Nat.lt_succ_self n))
  refine ⟨before.unframed.append behind.unframed, some i, within_some i, ?_⟩
  rw [middle.indented]
  exact openAbove_skip forest.bounds.1 fun l h₁ h₂ k hk =>
    Nat.lt_of_lt_of_le lt (forest.deep h₁ h₂ hk)

/-- From a line of a later branch, the walk up passes the branch. -/
theorem finds_or_leaves_of_later (h₁ : n < line)
    (h : o.Finds later line ∨ o.Leaves later i (n + 1) line) :
    o.Finds (inner ++ later) line ∨ o.Leaves (inner ++ later) i first line := by
  have before := forest.apart line (.inr (by omega))
  refine h.imp (fun finds => finds.append_right before) ?_
  rintro ⟨unframed, limit, within, up⟩
  obtain ⟨-, limit', within', skip⟩ := leaves_middle lt forest middle contents
  refine ⟨before.unframed.append unframed, limit', within', ?_⟩
  rw [up, openAbove_leaf middle.isLeaf within (.inl rfl), ← middle.indented, skip]

end Branch

/-- From a line of a part without a declaration, the walk up finds the innermost frame of the part,
or leaves the part. -/
theorem finds_or_leaves (h : o.Printed part i first next blocks) (h₁ : first ≤ line)
    (h₂ : line < next) (undeclared : o.declarationOn line = none) :
    o.Finds blocks line ∨ o.Leaves blocks i first line := by
  induction h with
  | nil => omega
  | @blank i a _ _ blank rest ih =>
    by_cases e : line = a
    · subst e
      exact .inr ⟨(rest.apart _ (.inl (Nat.lt_succ_self _))).unframed, none,
        fun _ h => (Option.some_ne_none _ h.symm).elim, by rw [blank]⟩
    · refine (ih (by omega) h₂).imp_right ?_
      rintro ⟨unframed, limit, within, up⟩
      exact ⟨unframed, limit, within, by rw [up, openAbove_blank blank]⟩
  | @leaf i a _ _ leaf rest ih =>
    by_cases e : line = a
    · subst e
      exact .inr ⟨(rest.apart _ (.inl (Nat.lt_succ_self _))).unframed, some i, within_some i,
        by rw [leaf.indented]⟩
    · refine (ih (by omega) h₂).imp_right ?_
      rintro ⟨unframed, limit, within, up⟩
      exact ⟨unframed, some i, within_some i, by rw [up, openAbove_leaf leaf within (.inl rfl)]⟩
  | @block _ _ a m _ _ _ opener contents closer forest inner later =>
    rcases Nat.lt_trichotomy line m with lt | rfl | gt
    · by_cases e : line = a
      · subst e
        exact .inr (leaves_opener opener contents forest undeclared)
      · have inside : a < line := by omega
        exact finds_or_leaves_of_contents opener contents forest inside lt (inner inside lt)
    · exact finds_or_leaves_of_closer opener contents closer forest
    · exact finds_or_leaves_of_behind opener contents closer gt (later gt h₂)
  | last lt _ ih =>
    refine (ih h₁ h₂).imp_right ?_
    rintro ⟨unframed, limit, within, up⟩
    exact ⟨unframed, limit, within.mono (Nat.le_of_lt lt), up⟩
  | @branch _ _ _ n _ _ _ lt forest middle contents inner later =>
    rcases Nat.lt_trichotomy line n with before | rfl | behind
    · exact finds_or_leaves_of_branch lt contents before (inner h₁ before)
    · exact .inr (leaves_middle lt forest middle contents)
    · exact finds_or_leaves_of_later lt forest middle contents behind (later behind h₂)

/-! ## The frame around a line -/

/-- In a template that is printed from a forest, with a fold for each block or without folds: a
declaration on a line is found from that line, with its block, or with the line alone if it opens
none; from any other line the innermost frame around it is found, or nothing if there is none. -/
theorem enclosing_of_printed (printed : o.Printed .forest i 0 o.index.count blocks)
    (folds : o.folds = [] ∨ o.folds.Perm blocks) (inside : line < o.index.count) :
    (∀ d, o.declarationOn line = some d →
      (∀ r ∈ blocks, r.first = line → o.enclosing line = some ⟨d, r⟩) ∧
      ((∀ r ∈ blocks, r.first ≠ line) → o.enclosing line = some ⟨d, ⟨line, line⟩⟩)) ∧
    (o.declarationOn line = none →
      (∃ r d, o.IsInnermost blocks line r ∧ o.declarationOn r.first = some d ∧
        o.enclosing line = some ⟨d, r⟩) ∨
      o.Unframed blocks line ∧ o.enclosing line = none) := by
  refine ⟨fun d hd => ?_, fun undeclared => ?_⟩
  · have declared : (o.declarationOn line).isSome = true := by simp [hd]
    have own : o.enclosing line = some (o.scope d line) := by rw [enclosing, hd]
    refine ⟨fun r hr start => ?_, fun alone => ?_⟩
    · subst start
      rw [own, scope, printed.blockEnd_eq folds hr declared]
    · rw [own, scope, printed.blockEnd_of_forall_ne folds (Nat.zero_le _) inside declared alone]
  · have around : o.enclosing line =
        (o.enclosingFold line).or (o.openAbove line (o.index.indent? line) none) := by
      rw [enclosing, undeclared]
    cases hf : o.enclosingFold line with
    | some s =>
      obtain ⟨hm, contains, declared, inner⟩ := enclosingFold_eq_some hf
      have folds : o.folds.Perm blocks := folds.resolve_left (List.ne_nil_of_mem hm)
      refine .inl ⟨s.lines, s.declaration, ⟨folds.mem_iff.1 hm, contains, by simp [declared],
        fun fold hm => inner fold (folds.mem_iff.2 hm)⟩, declared, ?_⟩
      rw [around, hf]
      rfl
    | none =>
      rcases finds_or_leaves printed (Nat.zero_le _) inside undeclared with
        ⟨r, d, innermost, hd, found⟩ | ⟨unframed, limit, -, up⟩
      · refine .inl ⟨r, d, innermost, hd, ?_⟩
        rw [around, hf, found, scope, printed.blockEnd_eq folds innermost.mem innermost.declared]
        rfl
      · refine .inr ⟨unframed, ?_⟩
        rw [around, hf, up]
        rfl

/-- A frame with a conditional, whose first branch is another frame. -/
def branchedFrames : String :=
  "<%= turbo_frame_tag \"a\" do %>\n  <% if x %>\n    <turbo-frame id=\"b\">\n\n      <p>b</p>\n" ++
    "    </turbo-frame>\n  <% else %>\n    <p>c</p>\n  <% end %>\n<% end %>"

/-- The frames of that template, with folds for its blocks. -/
def branched : Outline :=
  .ofSpans (.ofText branchedFrames) (Span.scan branchedFrames [.frameDeclaration])
    [⟨2, 5⟩, ⟨1, 8⟩, ⟨0, 9⟩]

/-- What the lines of that template are. -/
theorem lines_branched :
    branched.IsOpener true 0 0 ∧ branched.IsOpener false 2 1 ∧ branched.IsOpener true 4 2 ∧
      branched.index.indent? 3 = none ∧ branched.IsLeaf 6 4 ∧ branched.IsCloser 4 5 ∧
      branched.IsMiddle 2 6 ∧ branched.IsLeaf 4 7 ∧ branched.IsCloser 2 8 ∧
      branched.IsCloser 0 9 ∧ branched.index.count = 10 ∧
      branched.declarationOn 3 = none ∧ branched.declarationOn 7 = none := by
  decide +kernel

theorem printed_branched : branched.Printed .forest 0 0 10 [⟨0, 9⟩, ⟨1, 8⟩, ⟨2, 5⟩] := by
  obtain ⟨h₀, h₁, h₂, h₃, h₄, h₅, h₆, h₇, h₈, h₉, -⟩ := lines_branched
  have inner : branched.Printed .forest 4 2 6 [⟨2, 5⟩] :=
    .block h₂ (.last (by decide) (.blank h₃ (.leaf h₄ .nil))) h₅ .nil
  have branches : branched.Printed (.contents false) 2 2 8 [⟨2, 5⟩] :=
    .branch (by decide) inner h₆ (.last (by decide) (.leaf h₇ .nil))
  have conditional : branched.Printed .forest 2 1 9 [⟨1, 8⟩, ⟨2, 5⟩] := .block h₁ branches h₈ .nil
  exact .block h₀ (.last (by decide) conditional) h₉ .nil

/-- Around the blank line in the inner frame that frame is found, and around the other branch of the
conditional the outer one. -/
theorem enclosing_branched :
    (∃ d, branched.enclosing 3 = some ⟨d, ⟨2, 5⟩⟩) ∧
      ∃ d, branched.enclosing 7 = some ⟨d, ⟨0, 9⟩⟩ := by
  have folds : branched.folds.Perm [⟨0, 9⟩, ⟨1, 8⟩, ⟨2, 5⟩] := by decide
  obtain ⟨outer, conditional, inner, -, -, -, -, -, -, -, count, undeclared₃, undeclared₇⟩ :=
    lines_branched
  have printed := count.symm ▸ printed_branched
  constructor
  · rcases (enclosing_of_printed printed (.inr folds) (count ▸ by decide)).2 undeclared₃ with
      ⟨r, d, innermost, -, found⟩ | ⟨unframed, -⟩
    · have within := innermost.inner ⟨2, 5⟩ (by decide) (by decide) inner.declared
      have mem := innermost.mem
      simp only [List.mem_cons, List.not_mem_nil, or_false] at mem
      rcases mem with rfl | rfl | rfl
      · simp [IsInner] at within
      · simp [IsInner] at within
      · exact ⟨d, found⟩
    · simpa [unframed ⟨2, 5⟩ (by decide) (by decide)] using inner.declared
  · rcases (enclosing_of_printed printed (.inr folds) (count ▸ by decide)).2 undeclared₇ with
      ⟨r, d, innermost, -, found⟩ | ⟨unframed, -⟩
    · have around := innermost.around
      have declared := innermost.declared
      have mem := innermost.mem
      simp only [List.mem_cons, List.not_mem_nil, or_false] at mem
      rcases mem with rfl | rfl | rfl
      · exact ⟨d, found⟩
      · exact absurd (conditional.declared.symm.trans declared) (by decide)
      · simp [LineRange.contains] at around
    · simpa [unframed ⟨0, 9⟩ (by decide) (by decide)] using outer.declared

end Outline

end TemplatePaint
