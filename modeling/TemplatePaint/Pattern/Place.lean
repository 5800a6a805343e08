import TemplatePaint.Text.CharCounter
import TemplatePaint.Text.Range
import TemplatePaint.Text.Word

/-!
# Places in a text

A place stands between two characters of a text and knows the characters at
its two sides. Its type names the text, so whatever a pattern finds is known
to lie in the text it was looked for in: `Place.offset_add_length` turns
what is left after a place into an offset, and `Place.ext_offset` says that
the offset determines the place.
-/

namespace TemplatePaint

/-- A place in `text`: the characters before it, nearest first, those after it, and how many
there are before it. -/
structure Place (text : List Char) where
  before : List Char
  after : List Char
  offset : Nat
  split : before.reverse ++ after = text
  offset_eq : offset = before.length

namespace Place

variable {text : List Char}

/-- The place before the first character. -/
def first (text : List Char) : Place text := ⟨[], text, 0, rfl, rfl⟩

/-- The place after the next character. -/
def step (p : Place text) {c : Char} {rest : List Char} (h : p.after = c :: rest) : Place text :=
  ⟨c :: p.before, rest, p.offset + 1, by simpa [h] using p.split, by simp [p.offset_eq]⟩

/-- The number of bytes before the place. -/
def byteOffset (p : Place text) : Nat := byteLength p.before

/-- Exactly one of the characters at the two sides of the place is a word character. -/
def isWordEdge (p : Place text) : Bool :=
  p.before.head?.any isWordChar != p.after.head?.any isWordChar

theorem offset_add_length (p : Place text) : p.offset + p.after.length = text.length := by
  rw [p.offset_eq, ← congrArg List.length p.split]
  simp

theorem offset_le (p : Place text) : p.offset ≤ text.length := by
  have := p.offset_add_length
  omega

theorem after_eq_drop (p : Place text) : p.after = text.drop p.offset := by
  rw [p.offset_eq, ← congrArg (List.drop p.before.length) p.split]
  simp

/-- The characters between two places tell how far they are apart. -/
theorem offset_of_after_eq {p q : Place text} {cs : List Char} (h : p.after = cs ++ q.after) :
    q.offset = p.offset + cs.length := by
  have whole := p.offset_add_length
  have rest := q.offset_add_length
  rw [h, List.length_append] at whole
  omega

/-- What follows a later place is what is left of what follows an earlier one. -/
theorem after_eq_drop_of_le {p q : Place text} (le : p.offset ≤ q.offset) :
    q.after = p.after.drop (q.offset - p.offset) := by
  rw [q.after_eq_drop, p.after_eq_drop, List.drop_drop, Nat.add_sub_cancel' le]

theorem before_eq_take (p : Place text) : p.before = (text.take p.offset).reverse := by
  rw [p.offset_eq, ← congrArg (List.take p.before.length) p.split]
  simp

/-- A place is determined by its offset. -/
theorem ext_offset {p q : Place text} (h : p.offset = q.offset) : p = q := by
  have hb : p.before = q.before := by rw [before_eq_take, before_eq_take, h]
  have ha : p.after = q.after := by rw [after_eq_drop, after_eq_drop, h]
  cases p; cases q; cases hb; cases ha; cases h; rfl

@[simp] theorem offset_step (p : Place text) {c : Char} {rest : List Char}
    (h : p.after = c :: rest) : (p.step h).offset = p.offset + 1 := rfl

@[simp] theorem after_step (p : Place text) {c : Char} {rest : List Char}
    (h : p.after = c :: rest) : (p.step h).after = rest := rfl

end Place

/-- A stretch of `text` between two places. -/
structure Stretch (text : List Char) where
  start : Place text
  stop : Place text

namespace Stretch

variable {text : List Char}

/-- The characters of the stretch. -/
def chars (s : Stretch text) : List Char := s.start.after.take (s.stop.offset - s.start.offset)

/-- The offsets of the stretch. -/
def range (s : Stretch text) : TextRange := ⟨s.start.offset, s.stop.offset⟩

end Stretch

/-- The slice of a text at the offsets of a stretch has the characters of the stretch. -/
theorem slice_stretch {text : String} (s : Stretch text.toList) :
    slice text s.range = String.ofList s.chars := by
  rw [slice, Stretch.chars, Place.after_eq_drop]
  rfl

end TemplatePaint
