import TemplatePaint.Text.CharCounter
import TemplatePaint.Text.Range

/-!
# Slices by bytes

A range of characters is cut out of a text between two of its bytes. They are
bytes between characters, also for a range that goes past the end, and what is
cut out is the slice (`byteSlice_eq_slice`).
-/

namespace TemplatePaint

/-- The number of bytes before a character, or of all if the offset is past the end. -/
def byteOffset (cs : List Char) (offset : Nat) : Nat := byteLength (cs.take offset)

/-- The characters in the first bytes. -/
def takeBytes (bytes : Nat) (cs : List Char) : List Char := cs.take (countChars bytes cs)

/-- The characters from the byte where the range starts up to the byte where it stops, which is
found by counting on from there. -/
def byteSlice (text : String) (r : TextRange) : String :=
  let rest := dropBytes (byteOffset text.toList r.start) text.toList
  String.ofList (takeBytes (byteOffset rest r.length) rest)

theorem dropBytes_byteOffset (cs : List Char) (offset : Nat) :
    dropBytes (byteOffset cs offset) cs = cs.drop offset := by
  have cut := dropBytes_byteLength (cs.take offset) (cs.drop offset)
  rwa [List.take_append_drop] at cut

theorem takeBytes_byteOffset (cs : List Char) (offset : Nat) :
    takeBytes (byteOffset cs offset) cs = cs.take offset := by
  have count := countChars_byteLength (cs.take offset) (cs.drop offset)
  rw [List.take_append_drop] at count
  rw [takeBytes, byteOffset, count, List.length_take, ← List.take_eq_take_min]

/-- What is cut out by bytes is the slice. -/
theorem byteSlice_eq_slice (text : String) (r : TextRange) : byteSlice text r = slice text r := by
  rw [byteSlice, slice, dropBytes_byteOffset, takeBytes_byteOffset]

end TemplatePaint
