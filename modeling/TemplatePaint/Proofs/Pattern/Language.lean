import TemplatePaint.Pattern.Class
import TemplatePaint.Proofs.Pattern.Matches

/-!
# What a pattern reads

`Pattern.Reads` says which characters a pattern can read, whatever stands around
them. What a way of reading passes over is read in this sense
(`exists_reads_of_mem_ways`), so what a match captures is
(`reads_captured_of_matchAt`); and if a pattern asks for nothing around it,
there is a way over whatever it reads (`exists_way_of_reads`), so that it
matches (`exists_matchAt_of_mem_ways`).
-/

namespace TemplatePaint

variable {text : List Char}

/-! ## Places and what lies between them -/

/-- There is a place behind the characters that follow. -/
theorem Place.exists_after {p : Place text} {cs rest : List Char} (h : p.after = cs ++ rest) :
    ∃ q : Place text, q.after = rest := by
  induction cs generalizing p with
  | nil => exact ⟨p, h⟩
  | cons c cs ih => exact ih (p := p.step h) (p.after_step h)

/-- A stretch has the characters between its ends. -/
theorem Stretch.chars_of_after_eq {s : Stretch text} {cs : List Char}
    (h : s.start.after = cs ++ s.stop.after) : s.chars = cs := by
  rw [chars, Place.offset_of_after_eq h, Nat.add_sub_cancel_left, h, List.take_left]

namespace Pattern

/-! ## The language of a pattern -/

/-- The pattern reads these characters, if what it asks for around them is there. -/
def Reads : Pattern → List Char → Prop
  | one cls, cs => ∃ c, cs = [c] ∧ cls c = true
  | chars ds, cs => cs = ds
  | many cls, cs | few cls, cs => ∀ c ∈ cs, cls c = true
  | seq p q, cs => ∃ as bs, cs = as ++ bs ∧ p.Reads as ∧ q.Reads bs
  | either p q, cs => p.Reads cs ∨ q.Reads cs
  | capture p, cs => p.Reads cs
  | wordEdge, cs | textStart, cs | nothing, cs => cs = []

/-- One or more characters of a class are read if they are of the class and there is one. -/
theorem reads_oneOrMore_iff {cls : Char → Bool} {cs : List Char} :
    (oneOrMore cls).Reads cs ↔ cs ≠ [] ∧ ∀ c ∈ cs, cls c = true := by
  constructor
  · rintro ⟨_, more, rfl, ⟨c, rfl, first⟩, later⟩
    exact ⟨List.cons_ne_nil _ _, List.forall_mem_cons.2 ⟨first, later⟩⟩
  · rintro ⟨some, all⟩
    obtain ⟨c, more, rfl⟩ := List.exists_cons_of_ne_nil some
    obtain ⟨first, later⟩ := List.forall_mem_cons.1 all
    exact ⟨[c], more, rfl, ⟨c, rfl, first⟩, later⟩

/-! ## Ways read -/

theorem exists_of_mem_waysFew {cls : Char → Bool} {after : List Char} {p q : Place text}
    {hp : p.after = after} (h : q ∈ waysFew cls after p hp) :
    ∃ cs, p.after = cs ++ q.after ∧ ∀ c ∈ cs, cls c = true := by
  induction after generalizing p with
  | nil => exact ⟨[], by rw [List.mem_singleton.1 h, List.nil_append], List.forall_mem_nil _⟩
  | cons c rest ih =>
    rw [waysFew] at h
    rcases List.mem_cons.1 h with rfl | h
    · exact ⟨[], rfl, List.forall_mem_nil _⟩
    · split at h
      · rename_i first
        obtain ⟨cs, after, later⟩ := ih h
        refine ⟨c :: cs, ?_, List.forall_mem_cons.2 ⟨first, later⟩⟩
        rw [hp, List.cons_append, ← after, Place.after_step]
      · simp at h

/-- The pattern reads what a way passes over. -/
theorem exists_reads_of_mem_ways {p : Pattern} {r s : Reading text} (h : s ∈ p.ways r) :
    ∃ cs, r.place.after = cs ++ s.place.after ∧ p.Reads cs := by
  induction p generalizing r s with
  | one cls =>
    rw [ways] at h
    split at h
    · rename_i c rest after
      split at h
      · rename_i first
        obtain rfl := List.mem_singleton.1 h
        exact ⟨[c], after, c, rfl, first⟩
      · simp at h
    · simp at h
  | chars ds =>
    obtain ⟨q, hq, rfl⟩ := List.mem_map.1 h
    exact ⟨ds, after_of_mem_waysChars hq, rfl⟩
  | many cls =>
    obtain ⟨q, hq, rfl⟩ := List.mem_map.1 h
    exact exists_of_mem_waysFew (List.mem_reverse.1 hq)
  | few cls =>
    obtain ⟨q, hq, rfl⟩ := List.mem_map.1 h
    exact exists_of_mem_waysFew hq
  | seq p q ihp ihq =>
    obtain ⟨t, ht, hs⟩ := List.mem_flatMap.1 h
    obtain ⟨as, after, reads⟩ := ihp ht
    obtain ⟨bs, after', reads'⟩ := ihq hs
    exact ⟨as ++ bs, by rw [after, after', List.append_assoc], as, bs, rfl, reads, reads'⟩
  | either p q ihp ihq =>
    rcases List.mem_append.1 h with h | h
    · obtain ⟨cs, after, reads⟩ := ihp h
      exact ⟨cs, after, .inl reads⟩
    · obtain ⟨cs, after, reads⟩ := ihq h
      exact ⟨cs, after, .inr reads⟩
  | capture p ih =>
    obtain ⟨t, ht, rfl⟩ := List.mem_map.1 h
    exact (ih ht :)
  | wordEdge | textStart =>
    rw [ways] at h
    split at h
    · exact ⟨[], by rw [List.mem_singleton.1 h, List.nil_append], rfl⟩
    · simp at h
  | nothing => exact ⟨[], by rw [List.mem_singleton.1 h, List.nil_append], rfl⟩

/-- One of the capturing parts reads what a match captures. -/
theorem reads_captured_of_matchAt {p : Pattern} {place : Place text} {m : Match text}
    (h : p.matchAt place = some m) {s : Stretch text} (hs : m.captured = some s) :
    ∃ q ∈ p.captures, q.Reads s.chars := by
  obtain ⟨r, way, -, -, captured⟩ := exists_way_of_matchAt h
  rcases captured_of_mem_ways way with kept | ⟨q, mem, t, u, inner, kept, -⟩
  · cases hs.symm.trans (captured.trans kept)
  · obtain rfl := Option.some.inj (hs.symm.trans (captured.trans kept))
    obtain ⟨cs, after, reads⟩ := exists_reads_of_mem_ways inner
    have between : (Stretch.mk t.place u.place).chars = cs := Stretch.chars_of_after_eq after
    exact ⟨q, mem, between ▸ reads⟩

/-! ## What is read is a way -/

/-- The pattern asks for nothing around what it reads. -/
def isFree : Pattern → Bool
  | seq p q | either p q => p.isFree && q.isFree
  | capture p => p.isFree
  | wordEdge | textStart => false
  | one _ | chars _ | many _ | few _ | nothing => true

theorem exists_mem_waysChars {cs rest : List Char} {p : Place text} (h : p.after = cs ++ rest) :
    ∃ q ∈ waysChars cs p, q.after = rest := by
  induction cs generalizing p with
  | nil => exact ⟨p, List.mem_singleton_self p, h⟩
  | cons c cs ih =>
    rw [waysChars]
    split
    · rename_i d later after
      obtain ⟨rfl, rfl⟩ := List.cons.inj (after.symm.trans h)
      rw [if_pos rfl]
      exact ih (p.after_step after)
    · rename_i after
      cases after.symm.trans h

theorem exists_mem_waysFew {cls : Char → Bool} {after cs rest : List Char} {p : Place text}
    (hp : p.after = after) (h : p.after = cs ++ rest) (all : ∀ c ∈ cs, cls c = true) :
    ∃ q ∈ waysFew cls after p hp, q.after = rest := by
  induction after generalizing p cs with
  | nil =>
    obtain ⟨rfl, rfl⟩ := List.append_eq_nil_iff.1 (h.symm.trans hp)
    exact ⟨p, List.mem_singleton_self p, hp⟩
  | cons c later ih =>
    rw [waysFew]
    cases cs with
    | nil => exact ⟨p, List.mem_cons_self, h⟩
    | cons d ds =>
      obtain ⟨rfl, rfl⟩ := List.cons.inj (hp.symm.trans h)
      obtain ⟨first, all⟩ := List.forall_mem_cons.1 all
      rw [if_pos first]
      obtain ⟨q, hq, rest⟩ := ih (p.after_step hp) (p.after_step hp) all
      exact ⟨q, List.mem_cons_of_mem p hq, rest⟩

/-- Over what the pattern reads there is a way, if it asks for nothing around it. -/
theorem exists_way_of_reads {p : Pattern} (free : p.isFree = true) {r : Reading text}
    {cs rest : List Char} (h : r.place.after = cs ++ rest) (reads : p.Reads cs) :
    ∃ s ∈ p.ways r, s.place.after = rest := by
  induction p generalizing r cs rest with
  | one cls =>
    obtain ⟨c, rfl, first⟩ := reads
    rw [ways]
    split
    · rename_i d later after
      obtain ⟨rfl, rfl⟩ := List.cons.inj (after.symm.trans h)
      rw [if_pos first]
      exact ⟨_, List.mem_singleton_self _, r.place.after_step after⟩
    · rename_i after
      cases after.symm.trans h
  | chars ds =>
    obtain rfl : cs = ds := reads
    obtain ⟨q, hq, rest⟩ := exists_mem_waysChars h
    exact ⟨_, List.mem_map_of_mem hq, rest⟩
  | many cls =>
    obtain ⟨q, hq, rest⟩ := exists_mem_waysFew rfl h reads
    exact ⟨_, List.mem_map_of_mem (List.mem_reverse.2 hq), rest⟩
  | few cls =>
    obtain ⟨q, hq, rest⟩ := exists_mem_waysFew rfl h reads
    exact ⟨_, List.mem_map_of_mem hq, rest⟩
  | seq p q ihp ihq =>
    obtain ⟨freep, freeq⟩ := Bool.and_eq_true_iff.1 free
    obtain ⟨as, bs, rfl, readsp, readsq⟩ := reads
    obtain ⟨t, ht, after⟩ := ihp freep (h.trans (List.append_assoc _ _ _)) readsp
    obtain ⟨s, hs, rest⟩ := ihq freeq after readsq
    exact ⟨s, List.mem_flatMap.2 ⟨t, ht, hs⟩, rest⟩
  | either p q ihp ihq =>
    obtain ⟨freep, freeq⟩ := Bool.and_eq_true_iff.1 free
    rcases reads with reads | reads
    · obtain ⟨s, hs, rest⟩ := ihp freep h reads
      exact ⟨s, List.mem_append_left _ hs, rest⟩
    · obtain ⟨s, hs, rest⟩ := ihq freeq h reads
      exact ⟨s, List.mem_append_right _ hs, rest⟩
  | capture p ih =>
    obtain ⟨t, ht, rest⟩ := ih free h reads
    exact ⟨_, List.mem_map_of_mem ht, rest⟩
  | wordEdge | textStart => exact absurd free Bool.false_ne_true
  | nothing =>
    obtain rfl : cs = [] := reads
    exact ⟨r, List.mem_singleton_self r, h⟩

/-- Where there is a way, the pattern matches. -/
theorem exists_matchAt_of_mem_ways {p : Pattern} {place : Place text} {s : Reading text}
    (h : s ∈ p.ways ⟨place, none⟩) : ∃ m, p.matchAt place = some m := by
  unfold matchAt
  split
  · exact ⟨_, rfl⟩
  · rename_i stuck
    rw [run_eq_findSome?, List.findSome?_eq_none_iff] at stuck
    exact absurd (stuck s h) (by simp)

end Pattern

end TemplatePaint
