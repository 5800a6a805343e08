/-!
# Ranges of characters

Offsets count characters from the start of a document. A range holds the
offsets from `start` up to, and not including, `stop`; a range with
`stop ≤ start` holds none. A cursor stands between two characters, so it
touches a range at both ends: `TextRange.touches` is inclusive, where
`TextRange.overlaps` asks for a shared character.

* `slice_eq_of_split`: the slice of a text at a range is the part that stands
  there.
-/

namespace TemplatePaint

/-- The characters from `start` up to, and not including, `stop`. -/
structure TextRange where
  start : Nat
  stop : Nat
deriving DecidableEq, Inhabited

namespace TextRange

/-- The number of characters in the range. -/
def length (r : TextRange) : Nat := r.stop - r.start

/-- The range holds no character. -/
def isEmpty (r : TextRange) : Bool := r.stop ≤ r.start

/-- A cursor at `offset` stands inside the range or at one of its ends. -/
def touches (r : TextRange) (offset : Nat) : Bool := r.start ≤ offset && offset ≤ r.stop

/-- Both ends of `s` lie between the ends of `r`. -/
def encloses (r s : TextRange) : Bool := r.start ≤ s.start && s.stop ≤ r.stop

/-- Each range starts before the other stops. -/
def overlaps (r s : TextRange) : Bool := r.start < s.stop && s.start < r.stop

/-- The order by start, and by stop among ranges of one start. -/
def le (r s : TextRange) : Bool :=
  r.start < s.start || (r.start == s.start && r.stop ≤ s.stop)

/-- How `r` and `s` stand in the order `le`. -/
def order (r s : TextRange) : Ordering :=
  if r = s then .eq else if r.le s then .lt else .gt

/-- The range moved `n` characters on. -/
def shift (r : TextRange) (n : Nat) : TextRange := ⟨n + r.start, n + r.stop⟩

/-- The offsets of the characters in the range. -/
instance : Membership Nat TextRange := ⟨fun r i => r.start ≤ i ∧ i < r.stop⟩

theorem eq_of_ends {r s : TextRange} (start : r.start = s.start) (stop : r.stop = s.stop) :
    r = s := by
  cases r; cases s; cases start; cases stop; rfl

theorem mem_iff {r : TextRange} {i : Nat} : i ∈ r ↔ r.start ≤ i ∧ i < r.stop := .rfl

instance (i : Nat) (r : TextRange) : Decidable (i ∈ r) :=
  inferInstanceAs (Decidable (r.start ≤ i ∧ i < r.stop))

theorem le_iff {r s : TextRange} :
    r.le s = true ↔ r.start < s.start ∨ r.start = s.start ∧ r.stop ≤ s.stop := by
  simp [le]

theorem le_trans (r s t : TextRange) (h : r.le s = true) (h' : s.le t = true) : r.le t = true := by
  rw [le_iff] at *
  omega

theorem le_total (r s : TextRange) : r.le s = true ∨ s.le r = true := by
  rw [le_iff, le_iff]
  omega

theorem touches_iff {r : TextRange} {offset : Nat} :
    r.touches offset = true ↔ r.start ≤ offset ∧ offset ≤ r.stop := by
  simp [touches]

theorem encloses_iff {r s : TextRange} :
    r.encloses s = true ↔ r.start ≤ s.start ∧ s.stop ≤ r.stop := by
  simp [encloses]

theorem encloses_refl (r : TextRange) : r.encloses r = true :=
  encloses_iff.2 ⟨Nat.le_refl _, Nat.le_refl _⟩

theorem encloses_trans {r s t : TextRange} (h : r.encloses s = true)
    (h' : s.encloses t = true) : r.encloses t = true := by
  rw [encloses_iff] at *
  omega

end TextRange

/-- The characters of `text` in `r`; what lies past the end of the text is left out. -/
def slice (text : String) (r : TextRange) : String :=
  String.ofList ((text.toList.drop r.start).take r.length)

/-- A slice is the middle one of three parts of the text. -/
theorem slice_eq_of_split {text : String} {before middle after : List Char} {r : TextRange}
    (split : text.toList = before ++ middle ++ after) (start : r.start = before.length)
    (stop : r.stop = before.length + middle.length) : slice text r = String.ofList middle := by
  have length : r.length = middle.length := by
    rw [TextRange.length, start, stop, Nat.add_sub_cancel_left]
  rw [slice, length, split, start, List.append_assoc, List.drop_left, List.take_left]

end TemplatePaint
