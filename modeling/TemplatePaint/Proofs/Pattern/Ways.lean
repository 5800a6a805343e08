import TemplatePaint.Pattern.Search

/-!
# What every way of reading takes

A pattern tells without a text which characters it cannot do without
(`Pattern.needs`), how many it reads at least (`Pattern.minLength`) and which it
reads first (`Pattern.lead`), so where it cannot match (`not_occursIn_of_needs`),
how long its matches are (`add_minLength_le_of_search`) and how they begin
(`head?_of_matchAt`). A search gives the first match from a place on
(`search_eq_some_iff`), so it gives the same when it starts anywhere up to that
match (`search_of_le_start`).
-/

namespace TemplatePaint

theorem Place.mem_of_after {text : List Char} {p : Place text} {c : Char} (h : c ∈ p.after) :
    c ∈ text := by
  rw [← p.split]
  exact List.mem_append_right _ h

namespace Pattern

variable {text : List Char} {c : Char}

/-! ## Characters that are needed -/

/-- The pattern is not read without this character. -/
def needs (c : Char) : Pattern → Bool
  | chars cs => cs.contains c
  | seq p q => p.needs c || q.needs c
  | either p q => p.needs c && q.needs c
  | capture p => p.needs c
  | one _ | many _ | few _ | wordEdge | textStart | nothing => false

theorem mem_of_needs {p : Pattern} (needed : p.needs c = true) {r s : Reading text}
    (h : s ∈ p.ways r) : c ∈ text := by
  induction p generalizing r s with
  | chars cs =>
    obtain ⟨q, hq, rfl⟩ := List.mem_map.1 h
    exact Place.mem_of_after (after_of_mem_waysChars hq ▸
      List.mem_append_left _ (List.elem_iff.1 needed))
  | seq p q ihp ihq =>
    obtain ⟨t, ht, hs⟩ := List.mem_flatMap.1 h
    simp only [needs, Bool.or_eq_true] at needed
    exact needed.elim (ihp · ht) (ihq · hs)
  | either p q ihp ihq =>
    simp only [needs, Bool.and_eq_true] at needed
    exact (List.mem_append.1 h).elim (ihp needed.1) (ihq needed.2)
  | capture p ih =>
    obtain ⟨t, ht, -⟩ := List.mem_map.1 h
    exact ih needed ht
  | _ => simp [needs] at needed

/-! ## Characters that are read -/

/-- The pattern reads at least so many characters. -/
def minLength : Pattern → Nat
  | one _ => 1
  | chars cs => cs.length
  | seq p q => p.minLength + q.minLength
  | either p q => min p.minLength q.minLength
  | capture p => p.minLength
  | many _ | few _ | wordEdge | textStart | nothing => 0

/-- A way ends behind all the characters that the pattern reads at least. -/
theorem add_minLength_le_of_mem_ways {p : Pattern} {r s : Reading text} (h : s ∈ p.ways r) :
    r.place.offset + p.minLength ≤ s.place.offset := by
  induction p generalizing r s with
  | one cls =>
    rw [ways] at h
    split at h
    · split at h
      · obtain rfl := List.mem_singleton.1 h
        exact Nat.le_refl _
      · simp at h
    · simp at h
  | chars cs =>
    obtain ⟨q, hq, rfl⟩ := List.mem_map.1 h
    exact Nat.le_of_eq (offset_of_mem_waysChars hq).symm
  | seq p q ihp ihq =>
    obtain ⟨t, ht, hs⟩ := List.mem_flatMap.1 h
    have := ihp ht
    have := ihq hs
    rw [minLength]
    omega
  | either p q ihp ihq =>
    rw [minLength]
    rcases List.mem_append.1 h with h | h
    · have := ihp h
      omega
    · have := ihq h
      omega
  | capture p ih =>
    obtain ⟨t, ht, rfl⟩ := List.mem_map.1 h
    exact (ih ht :)
  | many _ | few _ | wordEdge | textStart | nothing => exact le_of_mem_ways h

/-! ## The first character -/

/-- The character that every way of reading the pattern reads first, if the pattern names one. -/
def lead : Pattern → Option Char
  | chars cs => cs.head?
  | seq p _ | capture p => p.lead
  | one _ | many _ | few _ | either _ _ | wordEdge | textStart | nothing => none

/-- Where the pattern is read, the text goes on with the pattern's first character. -/
theorem head?_of_lead {p : Pattern} (first : p.lead = some c) {r s : Reading text}
    (h : s ∈ p.ways r) : r.place.after.head? = some c := by
  induction p generalizing r s with
  | chars cs =>
    obtain ⟨q, hq, rfl⟩ := List.mem_map.1 h
    rw [after_of_mem_waysChars hq, List.head?_append, show cs.head? = some c from first,
      Option.some_or]
  | seq p q ihp _ =>
    obtain ⟨t, ht, -⟩ := List.mem_flatMap.1 h
    exact ihp first ht
  | capture p ih =>
    obtain ⟨t, ht, -⟩ := List.mem_map.1 h
    exact ih first ht
  | _ => simp [lead] at first

/-! ## Matches -/

theorem matchAt_of_searchIn {p : Pattern} {after : List Char} {place : Place text}
    {h : place.after = after} {m : Match text} (hm : p.searchIn after place h = some m) :
    p.matchAt m.start = some m := by
  induction after generalizing place with
  | nil => exact (start_of_matchAt hm).symm ▸ hm
  | cons c rest ih =>
    rw [searchIn] at hm
    split at hm
    · rename_i m' hm'
      obtain rfl := Option.some.inj hm
      exact (start_of_matchAt hm').symm ▸ hm'
    · exact ih hm

theorem matchAt_of_search {p : Pattern} {place : Place text} {m : Match text}
    (h : p.search place = some m) : p.matchAt m.start = some m :=
  matchAt_of_searchIn (search_eq_searchIn p place ▸ h)

/-- A pattern that needs a character does not occur where that is missing. -/
theorem not_occursIn_of_needs {p : Pattern} (needed : p.needs c = true) (missing : c ∉ text) :
    p.occursIn text = false := by
  refine Bool.eq_false_iff.2 fun occurs => ?_
  obtain ⟨m, hm⟩ := Option.isSome_iff_exists.1 occurs
  obtain ⟨r, hr, -⟩ := exists_way_of_matchAt (matchAt_of_search hm)
  exact missing (mem_of_needs needed hr)

/-- A match has all the characters that the pattern reads at least. -/
theorem add_minLength_le_of_matchAt {p : Pattern} {place : Place text} {m : Match text}
    (h : p.matchAt place = some m) : m.start.offset + p.minLength ≤ m.stop.offset := by
  obtain ⟨r, hr, start, stop, -⟩ := exists_way_of_matchAt h
  rw [start, stop]
  exact add_minLength_le_of_mem_ways hr

theorem add_minLength_le_of_search {p : Pattern} {place : Place text} {m : Match text}
    (h : p.search place = some m) : m.start.offset + p.minLength ≤ m.stop.offset :=
  add_minLength_le_of_matchAt (matchAt_of_search h)

theorem head?_of_matchAt {p : Pattern} (first : p.lead = some c) {place : Place text}
    {m : Match text} (h : p.matchAt place = some m) : m.start.after.head? = some c := by
  obtain ⟨r, hr, start, -⟩ := exists_way_of_matchAt h
  rw [start]
  exact head?_of_lead first hr

/-! ## Searches -/

/-- A search finds nothing just if the pattern matches at no later place. -/
theorem search_eq_none_iff {p : Pattern} {place : Place text} :
    p.search place = none ↔ ∀ q : Place text, place.offset ≤ q.offset → p.matchAt q = none := by
  rw [search_eq_searchIn]
  have along (after : List Char) (place : Place text) (h : place.after = after) :
      p.searchIn after place h = none ↔
        ∀ q : Place text, place.offset ≤ q.offset → p.matchAt q = none := by
    induction after generalizing place with
    | nil =>
      refine ⟨fun none q le => ?_, fun none => none place (Nat.le_refl _)⟩
      have last := place.offset_add_length
      have := q.offset_add_length
      rw [h, List.length_nil] at last
      have : q = place := Place.ext_offset (by omega)
      exact this ▸ none
    | cons c rest ih =>
      rw [searchIn]
      cases hm : p.matchAt place with
      | some m => simpa using ⟨place, Nat.le_refl _, by simp [hm]⟩
      | none =>
        refine (ih (place.step h) (place.after_step h)).trans
          ⟨fun none q le => ?_, fun none q le => ?_⟩
        · by_cases e : q.offset = place.offset
          · exact Place.ext_offset e ▸ hm
          · exact none q (by rw [Place.offset_step]; omega)
        · exact none q (Nat.le_of_succ_le le)
  exact along place.after place rfl

theorem matchAt_eq_none_of_searchIn {p : Pattern} {after : List Char} {place q : Place text}
    {h : place.after = after} {m : Match text} (hm : p.searchIn after place h = some m)
    (h₁ : place.offset ≤ q.offset) (h₂ : q.offset < m.start.offset) : p.matchAt q = none := by
  induction after generalizing place with
  | nil =>
    have := congrArg Place.offset (start_of_matchAt hm)
    omega
  | cons c rest ih =>
    rw [searchIn] at hm
    split at hm
    · rename_i m' hm'
      obtain rfl := Option.some.inj hm
      have := congrArg Place.offset (start_of_matchAt hm')
      omega
    · rename_i none
      by_cases e : q.offset = place.offset
      · exact Place.ext_offset e ▸ none
      · exact ih hm (by rw [Place.offset_step]; omega)

/-- Before the match that a search finds, the pattern matches nowhere. -/
theorem matchAt_eq_none_of_search {p : Pattern} {place q : Place text} {m : Match text}
    (h : p.search place = some m) (h₁ : place.offset ≤ q.offset)
    (h₂ : q.offset < m.start.offset) : p.matchAt q = none :=
  matchAt_eq_none_of_searchIn (search_eq_searchIn p place ▸ h) h₁ h₂

/-- A search finds the match at the first place, from where it starts, at which the pattern
matches. -/
theorem search_eq_some_iff {p : Pattern} {place : Place text} {m : Match text} :
    p.search place = some m ↔ place.offset ≤ m.start.offset ∧ p.matchAt m.start = some m ∧
      ∀ q : Place text, place.offset ≤ q.offset → q.offset < m.start.offset →
        p.matchAt q = none := by
  constructor
  · exact fun h => ⟨le_start_of_search h, matchAt_of_search h,
      fun _ h₁ h₂ => matchAt_eq_none_of_search h h₁ h₂⟩
  · rintro ⟨le, found, first⟩
    cases h : p.search place with
    | none => simp [search_eq_none_iff.1 h m.start le] at found
    | some m' =>
      have found' := matchAt_of_search h
      have : m'.start.offset = m.start.offset := by
        rcases Nat.lt_trichotomy m'.start.offset m.start.offset with lt | e | gt
        · simp [first m'.start (le_start_of_search h) lt] at found'
        · exact e
        · simp [matchAt_eq_none_of_search h le gt] at found
      rw [Place.ext_offset this] at found'
      exact found'.symm.trans found

/-- A search that starts later, but not behind the match, finds the same match. -/
theorem search_of_le_start {p : Pattern} {place later : Place text} {m : Match text}
    (h : p.search place = some m) (h₁ : place.offset ≤ later.offset)
    (h₂ : later.offset ≤ m.start.offset) : p.search later = some m := by
  obtain ⟨-, found, first⟩ := search_eq_some_iff.1 h
  exact search_eq_some_iff.2 ⟨h₂, found, fun q le => first q (Nat.le_trans h₁ le)⟩

theorem search_eq_none_of_le {p : Pattern} {place later : Place text} (h : p.search place = none)
    (le : place.offset ≤ later.offset) : p.search later = none :=
  search_eq_none_iff.2 fun q h₁ => search_eq_none_iff.1 h q (Nat.le_trans le h₁)

end Pattern

end TemplatePaint
