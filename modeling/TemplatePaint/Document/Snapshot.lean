/-!
# Snapshots

The text and the cursor of a document at one moment. The cursor is at most at
the end of the text.
-/

namespace TemplatePaint

/-- A text, its cursor, and whether something is selected. -/
structure Snapshot where
  text : String
  cursor : Nat
  hasSelection : Bool
  cursor_le : cursor ≤ text.toList.length
deriving DecidableEq

namespace Snapshot

/-- The number of characters of the text. -/
def charCount (s : Snapshot) : Nat := s.text.toList.length

/-- A snapshot with the cursor at an offset, or at the end of the text if that is past it. -/
def ofCursor (text : String) (cursor : Nat) (hasSelection : Bool) : Snapshot :=
  ⟨text, min cursor text.toList.length, hasSelection, Nat.min_le_right _ _⟩

/-- Only the cursor up to the end of the text counts. -/
theorem ofCursor_congr {text : String} {cursor cursor' : Nat} {hasSelection : Bool}
    (h : min cursor text.toList.length = min cursor' text.toList.length) :
    ofCursor text cursor hasSelection = ofCursor text cursor' hasSelection := by
  simp only [ofCursor, h]

end Snapshot

end TemplatePaint
