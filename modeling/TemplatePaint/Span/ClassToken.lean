import TemplatePaint.Span.Basic
import TemplatePaint.Text.Blank
import TemplatePaint.Text.Runs

/-!
# Classes and their modifiers

The words of a value are its maximal runs of characters that are not blank.
Each word of a class attribute is a class; its modifiers are the stretches
that a colon ends, so the text after the last colon is none.
-/

namespace TemplatePaint

/-- A run of a name's characters, as a name of its own. -/
def Run.toName (r : Run) (base : Nat) : Name :=
  ⟨String.ofList r.text, ⟨base + r.start, base + r.stop⟩⟩

namespace Name

/-- The words of a name, in order. -/
def words (value : Name) : List Name :=
  (runs isBlank 0 value.text.toList).map (·.toName value.range.start)

/-- The modifiers of a class, in written order: the runs between colons that a colon ends. -/
def modifiers (token : Name) : List Name :=
  let chars := token.text.toList
  (runs (· == ':') 0 chars).filter (·.stop < chars.length) |>.map fun r =>
    ⟨String.ofList r.text, ⟨token.range.start + r.start, token.range.start + r.stop + 1⟩⟩

/-- The class as a span. -/
def classToken (token : Name) : Span :=
  ⟨.classToken, token.range, .modifiers token token.modifiers⟩

/-- The classes of a value, in order. -/
def classTokens (value : Name) : List Span := value.words.map classToken

end Name

end TemplatePaint
