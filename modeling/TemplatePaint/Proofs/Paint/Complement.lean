import TemplatePaint.Paint.Plan

/-!
# The gaps between ranges

The complement of some ranges lists the gaps that they leave in a text, in
order. The sweep goes over the sorted ranges and keeps the offset up to which
all is settled; a gap is what lies between that offset and the next range.

* `mem_complement`: an offset lies in a gap just if it is an offset of the text
  and no range has it;
* `complement_exact`: the gaps are in order, share no offset, and are the text
  without the ranges, however these overlap;
* `TextRange.partition_complement`: gaps and ranges together have every offset
  of the text once.
-/

namespace TemplatePaint

namespace TextRange

/-- The ranges, of which none is empty, have every offset below `total` once and no other offset. -/
structure Partition (total : Nat) (ranges : List TextRange) : Prop where
  nonempty : ∀ r ∈ ranges, r.start < r.stop
  disjoint : ranges.Pairwise fun r s => ∀ i ∈ r, i ∉ s
  union : ∀ i, (∃ r ∈ ranges, i ∈ r) ↔ i < total

end TextRange

/-! ## The sweep -/

variable {total pos : Nat} {ranges : List TextRange}

/-- A gap is not empty and lies between the offset that is settled and the end. -/
theorem bounds_of_mem_gapsFrom (le : ∀ r ∈ ranges, r.start ≤ total) {g : TextRange}
    (h : g ∈ gapsFrom total pos ranges) : pos ≤ g.start ∧ g.start < g.stop ∧ g.stop ≤ total := by
  induction ranges generalizing pos with
  | nil =>
    rw [gapsFrom] at h
    split at h
    · rename_i lt
      obtain rfl := List.mem_singleton.1 h
      exact ⟨Nat.le_refl _, lt, Nat.le_refl _⟩
    · simp at h
  | cons r rs ih =>
    obtain ⟨first, le⟩ := List.forall_mem_cons.1 le
    have later (h : g ∈ gapsFrom total (max pos r.stop) rs) :
        pos ≤ g.start ∧ g.start < g.stop ∧ g.stop ≤ total := by
      obtain ⟨behind, rest⟩ := ih le h
      exact ⟨Nat.le_trans (Nat.le_max_left _ _) behind, rest⟩
    rw [gapsFrom] at h
    split at h
    · rename_i lt
      rcases List.mem_cons.1 h with rfl | h
      · exact ⟨Nat.le_refl _, lt, first⟩
      · exact later h
    · exact later h

/-- Each gap starts behind the ones before. -/
theorem pairwise_gapsFrom (le : ∀ r ∈ ranges, r.start ≤ total)
    (ordered : ∀ r ∈ ranges, r.start ≤ r.stop) :
    (gapsFrom total pos ranges).Pairwise fun g h => g.stop ≤ h.start := by
  induction ranges generalizing pos with
  | nil =>
    rw [gapsFrom]
    split
    · exact List.pairwise_singleton _ _
    · exact .nil
  | cons r rs ih =>
    obtain ⟨-, le⟩ := List.forall_mem_cons.1 le
    obtain ⟨first, ordered⟩ := List.forall_mem_cons.1 ordered
    rw [gapsFrom]
    split
    · refine List.pairwise_cons.2 ⟨fun g hg => ?_, ih le ordered⟩
      exact Nat.le_trans first
        (Nat.le_trans (Nat.le_max_right _ _) (bounds_of_mem_gapsFrom le hg).1)
    · exact ih le ordered

/-- From the settled offset on, an offset lies in a gap just if no range has it. -/
theorem mem_gapsFrom (le : ∀ r ∈ ranges, r.start ≤ total)
    (sorted : ranges.Pairwise fun r s => r.start ≤ s.start) {i : Nat} :
    (∃ g ∈ gapsFrom total pos ranges, i ∈ g) ↔ pos ≤ i ∧ i < total ∧ ∀ r ∈ ranges, i ∉ r := by
  induction ranges generalizing pos with
  | nil =>
    rw [gapsFrom]
    split
    · simp [TextRange.mem_iff]
    · simp
      omega
  | cons r rs ih =>
    obtain ⟨first, le⟩ := List.forall_mem_cons.1 le
    obtain ⟨start, sorted⟩ := List.pairwise_cons.1 sorted
    have cons : (∃ g ∈ gapsFrom total pos (r :: rs), i ∈ g) ↔
        pos ≤ i ∧ i < r.start ∨ ∃ g ∈ gapsFrom total (max pos r.stop) rs, i ∈ g := by
      rw [gapsFrom]
      split
      · simp [TextRange.mem_iff]
      · rename_i settled
        rw [or_iff_right fun h => settled (Nat.lt_of_le_of_lt h.1 h.2)]
    rw [cons, ih le sorted, List.forall_mem_cons, TextRange.mem_iff]
    constructor
    · rintro (⟨from_, before⟩ | ⟨from_, lt, none⟩)
      · refine ⟨from_, Nat.lt_of_lt_of_le before first, fun h => ?_, fun s hs h => ?_⟩
        · exact absurd h.1 (Nat.not_le_of_lt before)
        · exact absurd (Nat.le_trans (start s hs) h.1) (Nat.not_le_of_lt before)
      · exact ⟨by omega, lt, fun h => by omega, none⟩
    · rintro ⟨from_, lt, other, none⟩
      rcases Nat.lt_or_ge i r.start with before | behind
      · exact .inl ⟨from_, before⟩
      · exact .inr ⟨by omega, lt, none⟩

/-! ## The complement -/

/-- Sorted ranges come in the order of their starts. -/
theorem pairwise_start_sortBy (ranges : List TextRange) :
    (sortBy TextRange.le ranges).Pairwise fun r s => r.start ≤ s.start := by
  refine (pairwise_sortBy TextRange.le_trans TextRange.le_total _).imp fun h => ?_
  have := TextRange.le_iff.1 h
  omega

/-- The ranges that are swept are the given ones, cut off at the end of the text. -/
theorem mem_sortBy_clamp {r : TextRange} :
    r ∈ sortBy TextRange.le (ranges.map fun r => ⟨min r.start total, min r.stop total⟩) ↔
      ∃ s ∈ ranges, ⟨min s.start total, min s.stop total⟩ = r :=
  (perm_sortBy _ _).mem_iff.trans List.mem_map

theorem start_le_of_mem_sortBy_clamp {r : TextRange}
    (h : r ∈ sortBy TextRange.le (ranges.map fun r => ⟨min r.start total, min r.stop total⟩)) :
    r.start ≤ total := by
  obtain ⟨s, -, rfl⟩ := mem_sortBy_clamp.1 h
  exact Nat.min_le_right _ _

/-- A gap is not empty and lies in the text. -/
theorem bounds_of_mem_complement {g : TextRange} (h : g ∈ complement ranges total) :
    g.start < g.stop ∧ g.stop ≤ total :=
  (bounds_of_mem_gapsFrom (fun _ => start_le_of_mem_sortBy_clamp) h).2

/-- Each gap starts behind the ones before. -/
theorem pairwise_complement (ordered : ∀ r ∈ ranges, r.start ≤ r.stop) (total : Nat) :
    (complement ranges total).Pairwise fun g h => g.stop ≤ h.start := by
  refine pairwise_gapsFrom (fun _ => start_le_of_mem_sortBy_clamp) fun r hr => ?_
  obtain ⟨s, hs, rfl⟩ := mem_sortBy_clamp.1 hr
  have := ordered s hs
  show min s.start total ≤ min s.stop total
  omega

/-- An offset lies in a gap just if it is an offset of the text and no range has it. -/
theorem mem_complement {i : Nat} :
    (∃ g ∈ complement ranges total, i ∈ g) ↔ i < total ∧ ∀ r ∈ ranges, i ∉ r := by
  rw [complement, mem_gapsFrom (fun _ => start_le_of_mem_sortBy_clamp) (pairwise_start_sortBy _),
    and_iff_right (Nat.zero_le i)]
  refine and_congr_right fun lt => ⟨fun none s hs h => ?_, fun none r hr h => ?_⟩
  · refine none _ (mem_sortBy_clamp.2 ⟨s, hs, rfl⟩) ⟨?_, ?_⟩
    · exact Nat.le_trans (Nat.min_le_left _ _) h.1
    · exact Nat.lt_min.2 ⟨h.2, lt⟩
  · obtain ⟨s, hs, rfl⟩ := mem_sortBy_clamp.1 hr
    have from_ : min s.start total ≤ i := h.1
    have before : i < min s.stop total := h.2
    exact none s hs ⟨by omega, by omega⟩

/-- The gaps between any ranges are not empty, lie in the text and come one behind the other, and an
offset of the text lies in one of them just if no range has it. -/
theorem complement_exact (ordered : ∀ r ∈ ranges, r.start ≤ r.stop) (total : Nat) :
    (∀ g ∈ complement ranges total, g.start < g.stop ∧ g.stop ≤ total) ∧
      ((complement ranges total).Pairwise fun g h => g.stop ≤ h.start) ∧
      ∀ i < total, (∃ g ∈ complement ranges total, i ∈ g) ↔ ∀ r ∈ ranges, i ∉ r := by
  refine ⟨fun g hg => bounds_of_mem_complement hg, pairwise_complement ordered total,
    fun i lt => ?_⟩
  rw [mem_complement]
  exact and_iff_right lt

/-- Ranges in no order, one inside another, one that touches another, one past the end, and an empty
one, at which a gap is cut in two. -/
theorem complement_of_nested :
    let ranges : List TextRange := [⟨8, 30⟩, ⟨2, 6⟩, ⟨3, 4⟩, ⟨1, 1⟩, ⟨6, 7⟩]
    complement ranges 10 = [⟨0, 1⟩, ⟨1, 2⟩, ⟨7, 8⟩] ∧ ∀ r ∈ ranges, 7 ∉ r := by
  intro ranges
  have gaps : complement ranges 10 = [⟨0, 1⟩, ⟨1, 2⟩, ⟨7, 8⟩] := by decide
  obtain ⟨-, -, members⟩ := complement_exact (by decide : ∀ r ∈ ranges, r.start ≤ r.stop) 10
  have left : ∃ g ∈ complement ranges 10, 7 ∈ g :=
    ⟨⟨7, 8⟩, by rw [gaps]; decide, Nat.le_refl 7, by decide⟩
  exact ⟨gaps, (members 7 (by decide)).1 left⟩

/-- The gaps together with the ranges, if these are not empty and share no offset, have every offset
of the text once. -/
theorem TextRange.partition_complement (nonempty : ∀ r ∈ ranges, r.start < r.stop)
    (apart : ranges.Pairwise fun r s => r.stop ≤ s.start) (le : ∀ r ∈ ranges, r.stop ≤ total) :
    Partition total (complement ranges total ++ ranges) where
  nonempty := List.forall_mem_append.2 ⟨fun _ hg => (bounds_of_mem_complement hg).1, nonempty⟩
  disjoint := by
    have before {r s : TextRange} (h : r.stop ≤ s.start) : ∀ i ∈ r, i ∉ s := fun i hi hi' =>
      absurd (Nat.lt_of_lt_of_le hi.2 (Nat.le_trans h hi'.1)) (Nat.lt_irrefl i)
    refine List.pairwise_append.2 ⟨?_, apart.imp before, fun g hg r hr i hi => ?_⟩
    · exact (pairwise_complement (fun r hr => Nat.le_of_lt (nonempty r hr)) total).imp before
    · exact (mem_complement.1 ⟨g, hg, hi⟩).2 r hr
  union i := by
    simp only [List.mem_append, or_and_right, exists_or, mem_complement]
    constructor
    · rintro (⟨lt, -⟩ | ⟨r, hr, hi⟩)
      · exact lt
      · exact Nat.lt_of_lt_of_le hi.2 (le r hr)
    · intro lt
      by_cases covered : ∃ r ∈ ranges, i ∈ r
      · exact .inr covered
      · exact .inl ⟨lt, fun r hr hi => covered ⟨r, hr, hi⟩⟩

end TemplatePaint
