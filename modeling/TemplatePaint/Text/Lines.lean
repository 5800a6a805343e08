import TemplatePaint.Text.Blank
import TemplatePaint.Text.Range

/-!
# Lines

A text is cut into lines at its line breaks. A carriage return and the line
feed after it are one break; a text that ends in a break has an empty line
behind it. The text of a line leaves out a line feed and a carriage return at
its end; a break of another sort stays in it.

* `flatten_splitLines`: the lines and their breaks make up the text.
-/

namespace TemplatePaint

/-- The first and the last of some lines, both included. -/
structure LineRange where
  first : Nat
  last : Nat
deriving DecidableEq

/-- The line is one of the range. -/
def LineRange.contains (r : LineRange) (line : Nat) : Bool := r.first ≤ line && line ≤ r.last

theorem LineRange.contains_iff {r : LineRange} {line : Nat} :
    r.contains line = true ↔ r.first ≤ line ∧ line ≤ r.last := by
  simp [contains]

/-- The characters that end a line. -/
def isLineBreak (c : Char) : Bool :=
  let n := c.toNat
  (0x0A ≤ n && n ≤ 0x0D) || n == 0x85 || n == 0x2028 || n == 0x2029

/-- The characters of the lines, each with the break that ends it. -/
def splitLines : List Char → List (List Char × List Char)
  | [] => [([], [])]
  | '\r' :: '\n' :: cs => ([], ['\r', '\n']) :: splitLines cs
  | c :: cs =>
    if isLineBreak c then ([], [c]) :: splitLines cs
    else
      match splitLines cs with
      | (chars, ending) :: later => (c :: chars, ending) :: later
      | [] => [([c], [])]

theorem splitLines_ne_nil (cs : List Char) : splitLines cs ≠ [] := by
  fun_induction splitLines cs <;> simp

/-- The lines and their breaks make up the text. -/
theorem flatten_splitLines (cs : List Char) :
    ((splitLines cs).map fun line => line.1 ++ line.2).flatten = cs := by
  fun_induction splitLines cs <;> simp_all

/-- A line: the offset of its first character, its characters up to the break, and the break. -/
structure Line where
  start : Nat
  chars : List Char
  ending : List Char
deriving DecidableEq

namespace Line

/-- The line as it is shown: a break other than a line feed and a carriage return stays. -/
def shown (line : Line) : List Char :=
  if line.ending.all fun c => c == '\n' || c == '\r' then line.chars
  else line.chars ++ line.ending

/-- The width of the blank characters at the start of the line; none if the line is blank. -/
def indent? (line : Line) : Option Nat :=
  if line.shown.all isBlank then none else some (line.shown.takeWhile isBlank).length

end Line

/-- The lines with their offsets, where the first starts at `start`. -/
def placeLines : (start : Nat) → List (List Char × List Char) → List Line
  | _, [] => []
  | start, (chars, ending) :: later =>
    ⟨start, chars, ending⟩ :: placeLines (start + chars.length + ending.length) later

/-- The lines of a text, for finding them by number and by offset. -/
structure LineIndex where
  lines : Array Line
  charCount : Nat

namespace LineIndex

/-- The lines of a text. -/
def ofText (text : String) : LineIndex :=
  ⟨(placeLines 0 (splitLines text.toList)).toArray, text.toList.length⟩

/-- The number of lines; an empty text has one. -/
def count (index : LineIndex) : Nat := index.lines.size

/-- The line that the character at `offset` belongs to; the last line for an offset past the
end. -/
def lineAt (index : LineIndex) (offset : Nat) : Nat :=
  index.lines.countP (·.start ≤ offset) - 1

/-- The offset of the first character of a line; past the last line, that of the last. -/
def lineStart (index : LineIndex) (line : Nat) : Nat :=
  (index.lines[min line (index.count - 1)]?.map (·.start)).getD 0

/-- The characters of a line as it is shown. -/
def shown? (index : LineIndex) (line : Nat) : Option (List Char) := index.lines[line]?.map (·.shown)

/-- The characters of a line as it is shown; of a line past the last, none. -/
def shown (index : LineIndex) (line : Nat) : List Char := (index.shown? line).getD []

/-- The offset after the last shown character of a line. -/
def lineEnd (index : LineIndex) (line : Nat) : Nat :=
  index.lineStart line + (index.shown line).length

/-- The characters of some lines, without the break of the last. -/
def linesRange (index : LineIndex) (lines : LineRange) : TextRange :=
  ⟨index.lineStart lines.first, index.lineEnd lines.last⟩

/-- The width of the blank characters at the start of a line; none if the line is blank or past
the last. -/
def indent? (index : LineIndex) (line : Nat) : Option Nat := index.lines[line]?.bind (·.indent?)

end LineIndex

end TemplatePaint
