import TemplatePaint.Context

/-!
# The innermost of the spans that a cursor touches

Of two spans that a cursor touches, one may lie in the other, or they overlap in
part. In each case the one that is further in stops first, or starts last if
both stop together (`Span.yieldsTo_iff`). This is an order of the ranges
(`TextRange.innerLe`), so going through the spans with the best one so far ends
at the first of the least ones, in whatever order the spans are listed
(`Span.innermost_eq_first_least`).
-/

namespace TemplatePaint

namespace TextRange

/-- `r` stops before `s`, or with it and starts no earlier. -/
def innerLe (r s : TextRange) : Bool :=
  r.stop < s.stop || (r.stop == s.stop && s.start ≤ r.start)

variable {r s t : TextRange}

theorem innerLe_iff :
    r.innerLe s = true ↔ r.stop < s.stop ∨ r.stop = s.stop ∧ s.start ≤ r.start := by
  simp [innerLe]

theorem innerLe_refl (r : TextRange) : r.innerLe r = true :=
  innerLe_iff.2 (.inr ⟨rfl, Nat.le_refl _⟩)

theorem innerLe_trans (h : r.innerLe s = true) (h' : s.innerLe t = true) :
    r.innerLe t = true := by
  rw [innerLe_iff] at *
  omega

theorem innerLe_of_not (h : ¬ r.innerLe s = true) : s.innerLe r = true := by
  rw [innerLe_iff] at *
  omega

theorem eq_of_innerLe (h : r.innerLe s = true) (h' : s.innerLe r = true) : r = s := by
  rw [innerLe_iff] at h h'
  exact eq_of_ends (by omega) (by omega)

/-- What lies in a range is further in. -/
theorem innerLe_of_encloses (h : s.encloses r = true) : r.innerLe s = true := by
  rw [encloses_iff] at h
  rw [innerLe_iff]
  omega

end TextRange

namespace Span

variable {spans : List Span} {cursor : Nat} {kind : SpanKind} {s t x : Span}

/-- Of two spans, the first yields just if the second stops earlier, or with it and starts later. -/
theorem yieldsTo_iff : s.yieldsTo t = true ↔ ¬ s.range.innerLe t.range = true := by
  rw [TextRange.innerLe_iff, yieldsTo]
  split
  · -- the second lies in the first, so it is further in unless the ranges are the same
    rename_i within
    rw [TextRange.encloses_iff] at within
    rw [bne_iff_ne]
    constructor
    · intro other
      have : ¬ (s.range.start = t.range.start ∧ s.range.stop = t.range.stop) :=
        fun same => other (TextRange.eq_of_ends same.1 same.2)
      omega
    · intro behind same
      rw [same] at behind
      omega
  · rename_i outside
    rw [TextRange.encloses_iff] at outside
    split
    · rename_i within
      rw [TextRange.encloses_iff] at within
      simp only [Bool.false_eq_true, false_iff]
      omega
    · -- they overlap in part or not at all, so the one that starts first stops first
      rename_i around
      rw [TextRange.encloses_iff] at around
      rw [decide_eq_true_iff]
      omega

/-- None of the spans is further in than `s`. -/
def innerToAll (spans : List Span) (s : Span) : Bool := spans.all fun t => s.range.innerLe t.range

theorem innerToAll_iff :
    innerToAll spans s = true ↔ ∀ t ∈ spans, s.range.innerLe t.range = true :=
  List.all_eq_true

theorem innerToAll_cons : innerToAll (s :: spans) x = true ↔
    x.range.innerLe s.range = true ∧ innerToAll spans x = true := by
  rw [innerToAll_iff, List.forall_mem_cons, innerToAll_iff]

/-- Beside a span that is further in, another one need not be looked at. -/
theorem innerToAll_cons_cons (le : s.range.innerLe t.range = true) :
    innerToAll (t :: s :: spans) = innerToAll (s :: spans) := by
  funext x
  rw [Bool.eq_iff_iff, innerToAll_cons, innerToAll_cons]
  exact ⟨fun h => h.2, fun h => ⟨TextRange.innerLe_trans h.1 le, h⟩⟩

theorem innerToAll_swap : innerToAll (s :: t :: spans) = innerToAll (t :: s :: spans) := by
  funext x
  rw [Bool.eq_iff_iff]
  simp only [innerToAll_cons]
  exact and_left_comm

theorem innerToAll_of_innerLe (le : s.range.innerLe t.range = true)
    (h : innerToAll spans t = true) : innerToAll spans s = true :=
  innerToAll_iff.2 fun u hu => TextRange.innerLe_trans le (innerToAll_iff.1 h u hu)

/-- Going through spans with the best one so far, one ends at the first that none is further in
than. -/
theorem foldl_inner_eq_find? (s : Span) (spans : List Span) :
    spans.foldl inner (some s) = (s :: spans).find? (innerToAll (s :: spans)) := by
  induction spans generalizing s with
  | nil =>
    have least : innerToAll [s] s = true :=
      innerToAll_iff.2 (List.forall_mem_singleton.2 (TextRange.innerLe_refl _))
    exact (List.find?_cons_of_pos least).symm
  | cons t spans ih =>
    rw [List.foldl_cons, inner]
    by_cases le : s.range.innerLe t.range = true
    · rw [if_neg fun yields => yieldsTo_iff.1 yields le, ih, innerToAll_swap,
        innerToAll_cons_cons le]
      by_cases least : innerToAll (s :: spans) s = true
      · rw [List.find?_cons_of_pos least, List.find?_cons_of_pos least]
      · -- `s` is no further out than `t`, so `t` is not the first of the least either
        have other : ¬ innerToAll (s :: spans) t = true :=
          fun h => least (innerToAll_of_innerLe le h)
        rw [List.find?_cons_of_neg least, List.find?_cons_of_neg least,
          List.find?_cons_of_neg other]
    · have other : ¬ innerToAll (t :: spans) s = true := fun h => le (innerToAll_cons.1 h).1
      rw [if_pos (yieldsTo_iff.2 le), ih, innerToAll_cons_cons (TextRange.innerLe_of_not le),
        List.find?_cons_of_neg other]

/-- The spans of a kind that the cursor touches. -/
def touching (spans : List Span) (cursor : Nat) (kind : SpanKind) : List Span :=
  spans.filter fun s => s.kind == kind && s.range.touches cursor

theorem mem_touching : s ∈ touching spans cursor kind ↔
    s ∈ spans ∧ s.kind = kind ∧ s.range.touches cursor = true := by
  simp [touching]

theorem touching_eq_filter : touching spans cursor kind =
    (spans.filter (·.kind == kind)).filter (·.range.touches cursor) := by
  rw [touching, List.filter_filter]
  exact List.filter_congr fun s _ => Bool.and_comm _ _

/-- The innermost span is the first of those that none is further in than. -/
theorem innermost_eq_find?_innerToAll (spans : List Span) (cursor : Nat) (kind : SpanKind) :
    innermost spans cursor kind =
      (touching spans cursor kind).find? (innerToAll (touching spans cursor kind)) := by
  show (touching spans cursor kind).foldl inner none = _
  cases touching spans cursor kind with
  | nil => rfl
  | cons s ts => exact foldl_inner_eq_find? s ts

/-- No span of the kind that the cursor touches is further in than the innermost. -/
theorem innerLe_of_innermost (h : innermost spans cursor kind = some s)
    (ht : t ∈ touching spans cursor kind) : s.range.innerLe t.range = true := by
  rw [innermost_eq_find?_innerToAll] at h
  exact innerToAll_iff.1 (List.find?_some h) t ht

/-- In another order of the spans, the innermost one has the same range. -/
theorem range_innermost_of_perm {spans' : List Span} (perm : spans.Perm spans') :
    (innermost spans' cursor kind).map (·.range) = (innermost spans cursor kind).map (·.range) := by
  have same : ∀ t, t ∈ touching spans cursor kind ↔ t ∈ touching spans' cursor kind :=
    fun _ => (perm.filter _).mem_iff
  have both : (innermost spans' cursor kind).isSome = (innermost spans cursor kind).isSome := by
    rw [Bool.eq_iff_iff, innermost_isSome_iff, innermost_isSome_iff]
    simp only [perm.mem_iff]
  cases h : innermost spans cursor kind with
  | none =>
    rw [h, Option.isSome_none, Option.isSome_eq_false_iff, Option.isNone_iff_eq_none] at both
    rw [both]
  | some s =>
    rw [h, Option.isSome_some] at both
    obtain ⟨s', h'⟩ := Option.isSome_iff_exists.1 both
    have le := innerLe_of_innermost h ((same s').2 (mem_touching.2 (mem_of_innermost h')))
    have le' := innerLe_of_innermost h' ((same s).1 (mem_touching.2 (mem_of_innermost h)))
    rw [h', Option.map_some, Option.map_some, TextRange.eq_of_innerLe le' le]

/-- There is no innermost span of a kind just if the cursor touches none; else it is the first in
the list of those that stop first and, among these, start last. So none that it touches lies
strictly in this one, and in another order of the list its range is the same. -/
theorem innermost_eq_first_least (spans : List Span) (cursor : Nat) (kind : SpanKind) :
    (innermost spans cursor kind = none ↔
      ∀ s ∈ spans, s.kind = kind → ¬ s.range.touches cursor = true) ∧
    innermost spans cursor kind =
      (touching spans cursor kind).find? (innerToAll (touching spans cursor kind)) ∧
    (∀ s, innermost spans cursor kind = some s → ∀ t ∈ touching spans cursor kind,
      s.range.encloses t.range = true → t.range = s.range) ∧
    ∀ spans', spans.Perm spans' →
      (innermost spans' cursor kind).map (·.range) =
        (innermost spans cursor kind).map (·.range) := by
  refine ⟨?_, innermost_eq_find?_innerToAll spans cursor kind, fun s h t ht within => ?_,
    fun _ perm => range_innermost_of_perm perm⟩
  · rw [← Option.not_isSome_iff_eq_none, innermost_isSome_iff]
    exact ⟨fun none s hs own touched => none ⟨s, hs, own, touched⟩,
      fun none ⟨s, hs, own, touched⟩ => none s hs own touched⟩
  · exact TextRange.eq_of_innerLe (TextRange.innerLe_of_encloses within) (innerLe_of_innermost h ht)

example : (innermost [⟨.script, ⟨2, 9⟩, .none⟩, ⟨.script, ⟨0, 7⟩, .none⟩, ⟨.script, ⟨3, 9⟩, .none⟩,
    ⟨.script, ⟨4, 7⟩, .none⟩] 5 .script).map (·.range) = some ⟨4, 7⟩ := by decide

end Span

end TemplatePaint
