import TemplatePaint.Pattern.Basic

/-!
# Searching a text

A pattern matches at the first place, from a given one on, at which it has a
way; the match is its first way there. A pattern may tell of a class that it
always reads a character of (`Pattern.closing?`), and then the search tries no
place that has no such character behind it. `Pattern.allFrom` lists the matches
that follow each other without overlap.

* `Pattern.search_eq_searchIn`: the search finds what trying each place in turn
  finds;
* `Pattern.le_start_of_search`: a match starts no earlier than the search;
* `Match.start_le_stop`: a match does not stop before its start.
-/

namespace TemplatePaint

/-- Where a pattern was read, and what it captured. -/
structure Match (text : List Char) where
  start : Place text
  stop : Place text
  captured : Option (Stretch text)
  start_le_stop : start.offset ≤ stop.offset

namespace Match

variable {text : List Char}

/-- The whole stretch of the match. -/
def stretch (m : Match text) : Stretch text := ⟨m.start, m.stop⟩

end Match

namespace Pattern

variable {text : List Char}

/-- The first way of reading the pattern at this place. -/
def matchAt (p : Pattern) (place : Place text) : Option (Match text) :=
  match h : p.run ⟨place, none⟩ some with
  | some r => some ⟨place, r.place, r.captured, by
      rw [run_eq_findSome?] at h
      obtain ⟨s, hs, hr⟩ := List.exists_of_findSome?_eq_some h
      exact Option.some.inj hr ▸ le_of_mem_ways hs⟩
  | none => none

theorem start_of_matchAt {p : Pattern} {place : Place text} {m : Match text}
    (h : p.matchAt place = some m) : m.start = place := by
  unfold matchAt at h
  split at h
  · exact Option.some.inj h ▸ rfl
  · simp at h

/-- The first match at `place` or later, where `after` follows `place`. -/
def searchIn (p : Pattern) :
    (after : List Char) → (place : Place text) → place.after = after → Option (Match text)
  | [], place, _ => p.matchAt place
  | _ :: rest, place, h =>
    match p.matchAt place with
    | some m => some m
    | none => p.searchIn rest (place.step h) (place.after_step h)

/-! ## Closing characters -/

/-- The last class of characters, or the last character of a word, that the pattern reads whichever
way is taken. -/
def closing? : Pattern → Option (Char → Bool)
  | one cls => some cls
  | chars cs => cs.getLast?.map fun c d => c == d
  | seq p q => q.closing?.or p.closing?
  | capture p => p.closing?
  | many _ | few _ | either _ _ | wordEdge | textStart | nothing => none

/-- The first match at `place` or later of a pattern that always reads a character of the class. A
place with none behind it is not tried: the next `near` places are known to have one, and when they
are passed, the next one is looked for. -/
def searchNear (p : Pattern) (cls : Char → Bool) :
    (after : List Char) → (near : Nat) → (place : Place text) → place.after = after →
      Option (Match text)
  | [], _, place, _ => p.matchAt place
  | c :: rest, near, place, h =>
    match if near = 0 then (c :: rest).findIdx? cls else some (near - 1) with
    | none => none
    | some near =>
      match p.matchAt place with
      | some m => some m
      | none => p.searchNear cls rest near (place.step h) (place.after_step h)

/-- The first match at `place` or later. -/
def search (p : Pattern) (place : Place text) : Option (Match text) :=
  match p.closing? with
  | some cls => p.searchNear cls place.after 0 place rfl
  | none => p.searchIn place.after place rfl

/-- A way reads a character of the closing class. -/
theorem exists_mem_of_closing? {p : Pattern} {cls : Char → Bool} (closing : p.closing? = some cls)
    {r s : Reading text} (h : s ∈ p.ways r) : ∃ c ∈ r.place.after, cls c = true := by
  induction p generalizing r s with
  | one cls' =>
    obtain rfl := Option.some.inj closing
    rw [ways] at h
    split at h
    · rename_i c rest after
      split at h
      · rename_i first
        exact ⟨c, after ▸ List.mem_cons_self, first⟩
      · simp at h
    · simp at h
  | chars cs =>
    obtain ⟨c, last, rfl⟩ := Option.map_eq_some_iff.1 closing
    obtain ⟨q, hq, -⟩ := List.mem_map.1 h
    refine ⟨c, ?_, beq_self_eq_true c⟩
    rw [after_of_mem_waysChars hq]
    exact List.mem_append_left _ (List.mem_of_getLast? last)
  | seq p q ihp ihq =>
    obtain ⟨t, ht, hs⟩ := List.mem_flatMap.1 h
    rcases Option.or_eq_some_iff.1 closing with second | ⟨-, first⟩
    · obtain ⟨c, hc, mem⟩ := ihq second hs
      rw [Place.after_eq_drop_of_le (le_of_mem_ways ht)] at hc
      exact ⟨c, List.mem_of_mem_drop hc, mem⟩
    · exact ihp first ht
  | capture p ih =>
    obtain ⟨t, ht, -⟩ := List.mem_map.1 h
    exact (ih closing ht :)
  | _ => simp [closing?] at closing

theorem exists_way_of_matchAt {p : Pattern} {place : Place text} {m : Match text}
    (h : p.matchAt place = some m) :
    ∃ r ∈ p.ways ⟨place, none⟩, m.start = place ∧ m.stop = r.place ∧ m.captured = r.captured := by
  unfold matchAt at h
  split at h
  · rename_i r hr
    rw [run_eq_findSome?] at hr
    obtain ⟨s, hs, e⟩ := List.exists_of_findSome?_eq_some hr
    obtain rfl := Option.some.inj e
    obtain rfl := Option.some.inj h
    exact ⟨s, hs, rfl, rfl, rfl⟩
  · simp at h

/-- Where no character of the closing class follows, the pattern does not match. -/
theorem matchAt_eq_none_of_closing? {p : Pattern} {cls : Char → Bool}
    (closing : p.closing? = some cls) {place : Place text}
    (missing : ∀ c ∈ place.after, ¬ cls c = true) : p.matchAt place = none := by
  refine Option.eq_none_iff_forall_ne_some.2 fun m hm => ?_
  obtain ⟨r, way, -⟩ := exists_way_of_matchAt hm
  obtain ⟨c, hc, mem⟩ := exists_mem_of_closing? closing way
  exact missing c hc mem

theorem searchIn_eq_none_of_closing? {p : Pattern} {cls : Char → Bool}
    (closing : p.closing? = some cls) {after : List Char} {place : Place text}
    (h : place.after = after) (missing : ∀ c ∈ after, ¬ cls c = true) :
    p.searchIn after place h = none := by
  induction after generalizing place with
  | nil => exact matchAt_eq_none_of_closing? closing (by rwa [h])
  | cons c rest ih =>
    rw [searchIn, matchAt_eq_none_of_closing? closing (by rwa [h])]
    exact ih (place.after_step h) fun d hd => missing d (List.mem_cons_of_mem c hd)

theorem searchNear_eq {p : Pattern} {cls : Char → Bool} (closing : p.closing? = some cls)
    {after : List Char} (near : Nat) {place : Place text} (h : place.after = after) :
    p.searchNear cls after near place h = p.searchIn after place h := by
  induction after generalizing near place with
  | nil => rfl
  | cons c rest ih =>
    rw [searchNear]
    split
    · rename_i stopped
      split at stopped
      · have missing := List.findIdx?_eq_none_iff.1 stopped
        exact (searchIn_eq_none_of_closing? closing h fun d hd => by simp [missing d hd]).symm
      · cases stopped
    · rw [searchIn]
      cases p.matchAt place with
      | some m => rfl
      | none => exact ih _ _

/-- The search finds what trying each place in turn finds. -/
theorem search_eq_searchIn (p : Pattern) (place : Place text) :
    p.search place = p.searchIn place.after place rfl := by
  rw [search]
  split
  · rename_i closing
    exact searchNear_eq closing 0 rfl
  · rfl

/-! ## Matches -/

theorem le_start_of_searchIn {p : Pattern} {after : List Char} {place : Place text}
    {h : place.after = after} {m : Match text} (hm : p.searchIn after place h = some m) :
    place.offset ≤ m.start.offset := by
  induction after generalizing place with
  | nil => exact Nat.le_of_eq (congrArg Place.offset (start_of_matchAt hm)).symm
  | cons c rest ih =>
    rw [searchIn] at hm
    split at hm
    · rename_i m' hm'
      obtain rfl := Option.some.inj hm
      exact Nat.le_of_eq (congrArg Place.offset (start_of_matchAt hm')).symm
    · exact Nat.le_trans (Nat.le_succ _) (ih hm)

/-- A match starts no earlier than the search. -/
theorem le_start_of_search {p : Pattern} {place : Place text} {m : Match text}
    (h : p.search place = some m) : place.offset ≤ m.start.offset :=
  le_start_of_searchIn (search_eq_searchIn p place ▸ h)

/-- What is left after the match is shorter than what was left before it. -/
theorem length_after_lt {place : Place text} {m : Match text} (h : place.offset < m.stop.offset) :
    m.stop.after.length < place.after.length := by
  have := place.offset_add_length
  have := m.stop.offset_add_length
  omega

/-- The matches from `place` on, each searched for from the end of the one before. -/
def allFrom (p : Pattern) (place : Place text) : List (Match text) :=
  match p.search place with
  | none => []
  | some m => if _h : place.offset < m.stop.offset then m :: p.allFrom m.stop else [m]
termination_by place.after.length
decreasing_by exact length_after_lt ‹_›

/-- The pattern matches somewhere in the text. -/
def occursIn (p : Pattern) (text : List Char) : Bool := (p.search (Place.first text)).isSome

end Pattern

end TemplatePaint
