import TemplatePaint.Pattern.Place

/-!
# Patterns

A pattern reads characters from a place in a text. Where it can read in more
than one way, the ways are tried in order: the left branch of `either` before
the right, the longest repetition first in `many`, the shortest first in
`few`. `Pattern.run` takes what has to follow as a continuation and gives the
result of the first way that lets it have one; `Pattern.ways` lists the
readings that all ways end in.

* `Pattern.run_eq_findSome?`: `run` takes the first of the `ways` whose
  continuation has a result;
* `Pattern.le_of_mem_ways`: a way never ends before the place where it
  started.
-/

namespace TemplatePaint

/-- How far a pattern has read, and what its last `capture` read. -/
structure Reading (text : List Char) where
  place : Place text
  captured : Option (Stretch text)

/-- What to read from a text. -/
inductive Pattern where
  /-- One character of a class. -/
  | one (cls : Char → Bool)
  /-- These characters, one after the other. -/
  | chars (cs : List Char)
  /-- Any number of characters of a class, as many as possible. -/
  | many (cls : Char → Bool)
  /-- Any number of characters of a class, as few as possible. -/
  | few (cls : Char → Bool)
  /-- A pattern and then another. -/
  | seq (p q : Pattern)
  /-- The first pattern, or else the second. -/
  | either (p q : Pattern)
  /-- A pattern, whose stretch is kept. -/
  | capture (p : Pattern)
  /-- Nothing, at a word edge. -/
  | wordEdge
  /-- Nothing, before the first character of the text. -/
  | textStart
  /-- Nothing. -/
  | nothing

namespace Pattern

variable {text : List Char} {α : Type}

/-! ## Reading -/

/-- Reads the given characters, and goes on with `k`. -/
def runChars (k : Place text → Option α) : (cs : List Char) → Place text → Option α
  | [], p => k p
  | c :: cs, p =>
    match h : p.after with
    | d :: _ => if c = d then runChars k cs (p.step h) else none
    | [] => none

/-- Reads as many characters of a class as let `k` have a result, the largest number first. -/
def runMany (cls : Char → Bool) (k : Place text → Option α) :
    (after : List Char) → (p : Place text) → p.after = after → Option α
  | [], p, _ => k p
  | c :: rest, p, h =>
    if cls c then
      match runMany cls k rest (p.step h) (p.after_step h) with
      | some result => some result
      | none => k p
    else k p

/-- Reads as many characters of a class as let `k` have a result, the smallest number first. -/
def runFew (cls : Char → Bool) (k : Place text → Option α) :
    (after : List Char) → (p : Place text) → p.after = after → Option α
  | [], p, _ => k p
  | c :: rest, p, h =>
    match k p with
    | some result => some result
    | none => if cls c then runFew cls k rest (p.step h) (p.after_step h) else none

/-- Reads by the pattern, and gives the result of `k` in the first way in which it has one. -/
def run : Pattern → Reading text → (Reading text → Option α) → Option α
  | one cls, r, k =>
    match h : r.place.after with
    | c :: _ => if cls c then k { r with place := r.place.step h } else none
    | [] => none
  | chars cs, r, k => runChars (fun p => k { r with place := p }) cs r.place
  | many cls, r, k => runMany cls (fun p => k { r with place := p }) r.place.after r.place rfl
  | few cls, r, k => runFew cls (fun p => k { r with place := p }) r.place.after r.place rfl
  | seq p q, r, k => p.run r fun s => q.run s k
  | either p q, r, k =>
    match p.run r k with
    | some result => some result
    | none => q.run r k
  | capture p, r, k => p.run r fun s => k { s with captured := some ⟨r.place, s.place⟩ }
  | wordEdge, r, k => if r.place.isWordEdge then k r else none
  | textStart, r, k => if r.place.before.isEmpty then k r else none
  | nothing, r, k => k r

/-! ## Ways -/

/-- The place after the given characters, if they stand there. -/
def waysChars : (cs : List Char) → Place text → List (Place text)
  | [], p => [p]
  | c :: cs, p =>
    match h : p.after with
    | d :: _ => if c = d then waysChars cs (p.step h) else []
    | [] => []

/-- The places after any number of characters of a class, the nearest first. -/
def waysFew (cls : Char → Bool) :
    (after : List Char) → (p : Place text) → p.after = after → List (Place text)
  | [], p, _ => [p]
  | c :: rest, p, h => p :: if cls c then waysFew cls rest (p.step h) (p.after_step h) else []

/-- The readings the pattern can end in, in the order in which they are tried. -/
def ways : Pattern → Reading text → List (Reading text)
  | one cls, r =>
    match h : r.place.after with
    | c :: _ => if cls c then [{ r with place := r.place.step h }] else []
    | [] => []
  | chars cs, r => (waysChars cs r.place).map fun p => { r with place := p }
  | many cls, r =>
    (waysFew cls r.place.after r.place rfl).reverse.map fun p => { r with place := p }
  | few cls, r => (waysFew cls r.place.after r.place rfl).map fun p => { r with place := p }
  | seq p q, r => (p.ways r).flatMap q.ways
  | either p q, r => p.ways r ++ q.ways r
  | capture p, r => (p.ways r).map fun s => { s with captured := some ⟨r.place, s.place⟩ }
  | wordEdge, r => if r.place.isWordEdge then [r] else []
  | textStart, r => if r.place.before.isEmpty then [r] else []
  | nothing, r => [r]

theorem runChars_eq (k : Place text → Option α) (cs : List Char) (p : Place text) :
    runChars k cs p = (waysChars cs p).findSome? k := by
  induction cs generalizing p with
  | nil => simp [runChars, waysChars]
  | cons c cs ih =>
    rw [runChars, waysChars]
    split
    · split
      · exact ih _
      · rfl
    · rfl

theorem runFew_eq (cls : Char → Bool) (k : Place text → Option α) (after : List Char)
    (p : Place text) (h : p.after = after) :
    runFew cls k after p h = (waysFew cls after p h).findSome? k := by
  induction after generalizing p with
  | nil => simp [runFew, waysFew]
  | cons c rest ih =>
    rw [runFew, waysFew, List.findSome?_cons, ih]
    cases k p with
    | some result => rfl
    | none => by_cases hc : cls c = true <;> simp [hc]

theorem runMany_eq (cls : Char → Bool) (k : Place text → Option α) (after : List Char)
    (p : Place text) (h : p.after = after) :
    runMany cls k after p h = (waysFew cls after p h).reverse.findSome? k := by
  induction after generalizing p with
  | nil => simp [runMany, waysFew]
  | cons c rest ih =>
    rw [runMany, waysFew, List.reverse_cons, List.findSome?_append, ih]
    by_cases hc : cls c = true
    · simp only [hc, if_true]
      cases (waysFew cls rest (p.step h) (p.after_step h)).reverse.findSome? k <;> simp
    · simp [hc]

/-- The pattern is read in the first of its ways whose continuation has a result. -/
theorem run_eq_findSome? (p : Pattern) (r : Reading text) (k : Reading text → Option α) :
    p.run r k = (p.ways r).findSome? k := by
  induction p generalizing r k with
  | one cls =>
    rw [run, ways]
    split
    · split <;> simp
    · rfl
  | chars cs => simp only [run, ways, runChars_eq, List.findSome?_map, Function.comp_def]
  | many cls => simp only [run, ways, runMany_eq, List.findSome?_map, Function.comp_def]
  | few cls => simp only [run, ways, runFew_eq, List.findSome?_map, Function.comp_def]
  | seq p q ihp ihq =>
    simp only [run, ways, ihp, ihq]
    induction p.ways r with
    | nil => simp
    | cons s ss ih =>
      rw [List.findSome?_cons, List.flatMap_cons, List.findSome?_append, ih]
      cases (q.ways s).findSome? k <;> simp
  | either p q ihp ihq =>
    rw [run, ways, ihp, ihq, List.findSome?_append]
    cases (p.ways r).findSome? k <;> simp
  | capture p ih => simp only [run, ways, ih, List.findSome?_map, Function.comp_def]
  | wordEdge =>
    rw [run, ways]
    split <;> simp
  | textStart =>
    rw [run, ways]
    split <;> simp
  | nothing => simp [run, ways]

/-! ## Ways only lead on -/

/-- The characters stand between the two places. -/
theorem after_of_mem_waysChars {cs : List Char} {p q : Place text} (h : q ∈ waysChars cs p) :
    p.after = cs ++ q.after := by
  induction cs generalizing p with
  | nil => rw [List.mem_singleton.1 h, List.nil_append]
  | cons d cs ih =>
    rw [waysChars] at h
    split at h
    · rename_i after
      split at h
      · rename_i same
        rw [after, same, List.cons_append, ← ih h, Place.after_step]
      · simp at h
    · simp at h

theorem offset_of_mem_waysChars {cs : List Char} {p q : Place text} (h : q ∈ waysChars cs p) :
    q.offset = p.offset + cs.length :=
  Place.offset_of_after_eq (after_of_mem_waysChars h)

theorem le_of_mem_waysFew {cls : Char → Bool} {after : List Char} {p q : Place text}
    {hp : p.after = after} (h : q ∈ waysFew cls after p hp) : p.offset ≤ q.offset := by
  induction after generalizing p with
  | nil => simp_all [waysFew]
  | cons c rest ih =>
    rw [waysFew, List.mem_cons] at h
    rcases h with rfl | h
    · exact Nat.le_refl _
    · split at h
      · exact Nat.le_trans (Nat.le_succ _) (ih h)
      · simp at h

/-- A way never ends before the place where it started. -/
theorem le_of_mem_ways {p : Pattern} {r s : Reading text} (h : s ∈ p.ways r) :
    r.place.offset ≤ s.place.offset := by
  induction p generalizing r s with
  | one cls =>
    rw [ways] at h
    split at h
    · split at h
      · simp_all
      · simp at h
    · simp at h
  | chars cs =>
    obtain ⟨q, hq, rfl⟩ := List.mem_map.1 h
    exact Nat.le_of_add_right_le (Nat.le_of_eq (offset_of_mem_waysChars hq).symm)
  | many cls =>
    obtain ⟨q, hq, rfl⟩ := List.mem_map.1 h
    exact le_of_mem_waysFew (List.mem_reverse.1 hq)
  | few cls =>
    obtain ⟨q, hq, rfl⟩ := List.mem_map.1 h
    exact le_of_mem_waysFew hq
  | seq p q ihp ihq =>
    obtain ⟨t, ht, hs⟩ := List.mem_flatMap.1 h
    exact Nat.le_trans (ihp ht) (ihq hs)
  | either p q ihp ihq => exact (List.mem_append.1 h).elim ihp ihq
  | capture p ih =>
    obtain ⟨t, ht, rfl⟩ := List.mem_map.1 h
    exact (ih ht :)
  | wordEdge =>
    rw [ways] at h
    split at h <;> simp_all
  | textStart =>
    rw [ways] at h
    split at h <;> simp_all
  | nothing => simp_all [ways]

end Pattern

end TemplatePaint
