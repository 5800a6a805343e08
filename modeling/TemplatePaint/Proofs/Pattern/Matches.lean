import TemplatePaint.Proofs.Pattern.Ways

/-!
# Matches and what they capture

What a match captures was read by one of the capturing parts of the pattern, so
it lies inside the match and has the characters that this part reads at least
(`captured_of_matchAt`). A pattern may tell that it always captures something,
and behind how many characters (`captured_of_captureOffset?`). The matches that
follow each other in a text do not overlap (`pairwise_allFrom`).
-/

namespace TemplatePaint

namespace Pattern

variable {text : List Char}

/-! ## Captures -/

/-- The parts of a pattern that read what it captures. -/
def captures : Pattern → List Pattern
  | capture p => [p]
  | seq p q | either p q => p.captures ++ q.captures
  | one _ | chars _ | many _ | few _ | wordEdge | textStart | nothing => []

/-- A way leaves what was captured before, or captures what one of the capturing parts reads between
its two ends. -/
theorem captured_of_mem_ways {p : Pattern} {r s : Reading text} (h : s ∈ p.ways r) :
    s.captured = r.captured ∨ ∃ q ∈ p.captures, ∃ t u : Reading text, u ∈ q.ways t ∧
      s.captured = some ⟨t.place, u.place⟩ ∧ r.place.offset ≤ t.place.offset ∧
      u.place.offset ≤ s.place.offset := by
  induction p generalizing r s with
  | seq p q ihp ihq =>
    obtain ⟨t, ht, hs⟩ := List.mem_flatMap.1 h
    rcases ihq hs with kept | ⟨part, mem, a, b, way, captured, le, le'⟩
    · rcases ihp ht with kept' | ⟨part, mem, a, b, way, captured, le, le'⟩
      · exact .inl (kept.trans kept')
      · exact .inr ⟨part, List.mem_append_left _ mem, a, b, way, kept.trans captured, le,
          Nat.le_trans le' (le_of_mem_ways hs)⟩
    · exact .inr ⟨part, List.mem_append_right _ mem, a, b, way, captured,
        Nat.le_trans (le_of_mem_ways ht) le, le'⟩
  | either p q ihp ihq =>
    rcases List.mem_append.1 h with h | h
    · exact (ihp h).imp_right fun ⟨part, mem, rest⟩ => ⟨part, List.mem_append_left _ mem, rest⟩
    · exact (ihq h).imp_right fun ⟨part, mem, rest⟩ => ⟨part, List.mem_append_right _ mem, rest⟩
  | capture p _ =>
    obtain ⟨t, ht, rfl⟩ := List.mem_map.1 h
    exact .inr ⟨p, List.mem_singleton_self p, r, t, ht, rfl, Nat.le_refl _, Nat.le_refl _⟩
  | one cls =>
    rw [ways] at h
    split at h
    · split at h
      · exact .inl (List.mem_singleton.1 h ▸ rfl)
      · simp at h
    · simp at h
  | chars cs =>
    obtain ⟨q, -, rfl⟩ := List.mem_map.1 h
    exact .inl rfl
  | many cls =>
    obtain ⟨q, -, rfl⟩ := List.mem_map.1 h
    exact .inl rfl
  | few cls =>
    obtain ⟨q, -, rfl⟩ := List.mem_map.1 h
    exact .inl rfl
  | wordEdge =>
    rw [ways] at h
    split at h <;> simp_all
  | textStart =>
    rw [ways] at h
    split at h <;> simp_all
  | nothing => exact .inl (List.mem_singleton.1 h ▸ rfl)

/-- A pattern that captures something in every way, and nothing after it, captures it behind at
least so many characters. -/
def captureOffset? : Pattern → Option Nat
  | capture _ => some 0
  | seq p q =>
    match q.captureOffset? with
    | some n => some (p.minLength + n)
    | none => if q.captures.isEmpty then p.captureOffset? else none
  | either _ _ | one _ | chars _ | many _ | few _ | wordEdge | textStart | nothing => none

/-- Every way of reading such a pattern captures something, behind the characters before it. -/
theorem captured_of_captureOffset? {p : Pattern} {n : Nat} (always : p.captureOffset? = some n)
    {r s : Reading text} (h : s ∈ p.ways r) :
    ∃ c, s.captured = some c ∧ r.place.offset + n ≤ c.start.offset := by
  induction p generalizing r s n with
  | capture p _ =>
    obtain ⟨t, -, rfl⟩ := List.mem_map.1 h
    obtain rfl := Option.some.inj always
    exact ⟨_, rfl, Nat.le_refl _⟩
  | seq p q ihp ihq =>
    obtain ⟨t, ht, hs⟩ := List.mem_flatMap.1 h
    rw [captureOffset?] at always
    split at always
    · rename_i m later
      obtain rfl := Option.some.inj always
      obtain ⟨c, captured, le⟩ := ihq later hs
      have := add_minLength_le_of_mem_ways ht
      exact ⟨c, captured, by omega⟩
    · split at always
      · rename_i none
        obtain ⟨c, captured, le⟩ := ihp always ht
        -- the second part captures nothing, so what the first captured stays
        refine ⟨c, ?_, le⟩
        rcases captured_of_mem_ways hs with kept | ⟨part, mem, -⟩
        · exact kept.trans captured
        · rw [List.isEmpty_iff.1 none] at mem
          simp at mem
      · simp at always
  | _ => simp [captureOffset?] at always

/-- What a match captures lies inside it, and has what a capturing part reads at least. -/
theorem captured_of_matchAt {p : Pattern} {place : Place text} {m : Match text}
    (h : p.matchAt place = some m) {s : Stretch text} (hs : m.captured = some s) :
    ∃ q ∈ p.captures, m.start.offset ≤ s.start.offset ∧
      s.start.offset + q.minLength ≤ s.stop.offset ∧ s.stop.offset ≤ m.stop.offset := by
  obtain ⟨r, way, start, stop, captured⟩ := exists_way_of_matchAt h
  rcases captured_of_mem_ways way with kept | ⟨q, mem, t, u, inner, kept, le, le'⟩
  · cases hs.symm.trans (captured.trans kept)
  · obtain rfl := Option.some.inj (hs.symm.trans (captured.trans kept))
    exact ⟨q, mem, start ▸ le, add_minLength_le_of_mem_ways inner, stop ▸ le'⟩

theorem captured_of_matchAt_captureOffset? {p : Pattern} {n : Nat}
    (always : p.captureOffset? = some n) {place : Place text} {m : Match text}
    (h : p.matchAt place = some m) :
    ∃ c, m.captured = some c ∧ m.start.offset + n ≤ c.start.offset := by
  obtain ⟨r, way, start, -, captured⟩ := exists_way_of_matchAt h
  rw [start, captured]
  exact captured_of_captureOffset? always way

/-! ## Matches in a row -/

theorem matchAt_of_mem_allFrom {p : Pattern} {place : Place text} {m : Match text}
    (h : m ∈ p.allFrom place) : place.offset ≤ m.start.offset ∧ p.matchAt m.start = some m := by
  fun_induction p.allFrom place with
  | case1 => simp at h
  | case2 place m' found lt ih =>
    rcases List.mem_cons.1 h with rfl | h
    · exact ⟨le_start_of_search found, matchAt_of_search found⟩
    · exact ⟨Nat.le_trans (Nat.le_of_lt lt) (ih h).1, (ih h).2⟩
  | case3 place m' found _ =>
    obtain rfl := List.mem_singleton.1 h
    exact ⟨le_start_of_search found, matchAt_of_search found⟩

/-- Of the matches in a row, each starts behind the ones before. -/
theorem pairwise_allFrom (p : Pattern) (place : Place text) :
    (p.allFrom place).Pairwise fun m n => m.stop.offset ≤ n.start.offset := by
  fun_induction p.allFrom place with
  | case1 => exact .nil
  | case2 place m found lt ih =>
    exact List.pairwise_cons.2 ⟨fun n hn => (matchAt_of_mem_allFrom hn).1, ih⟩
  | case3 => exact List.pairwise_singleton _ _

end Pattern

end TemplatePaint
