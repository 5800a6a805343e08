import TemplatePaint.Pattern.Basic
import TemplatePaint.Text.Blank

/-!
# Common patterns

Classes of characters and small patterns that the scanning rules are put
together from.
-/

namespace TemplatePaint

/-- A single or a double quote. -/
def isQuote (c : Char) : Bool := c == '"' || c == '\''

/-- A character of an identifier: a word character or a hyphen. -/
def isIdentifierChar (c : Char) : Bool := isWordChar c || c == '-'

namespace Pattern

/-- Any one character. -/
def anyChar (_ : Char) : Bool := true

/-- Exactly this character. -/
def char (c : Char) : Pattern := one (· == c)

/-- The characters of a string, one after the other. -/
def word (s : String) : Pattern := chars s.toList

/-- The patterns of a list, one after the other. -/
def all : List Pattern → Pattern
  | [] => nothing
  | [p] => p
  | p :: q :: ps => seq p (all (q :: ps))

/-- The first of the patterns of a list that lets the rest succeed. -/
def anyOf : List Pattern → Pattern
  | [] => one fun _ => false
  | [p] => p
  | p :: q :: ps => either p (anyOf (q :: ps))

/-- The pattern if the rest succeeds after it, or else nothing. -/
def optional (p : Pattern) : Pattern := either p nothing

/-- One or more characters of a class, as many as possible. -/
def oneOrMore (cls : Char → Bool) : Pattern := seq (one cls) (many cls)

/-- One or more characters of a class, as few as possible. -/
def oneOrMoreFew (cls : Char → Bool) : Pattern := seq (one cls) (few cls)

/-- Any number of blank characters. -/
def blanks : Pattern := many isBlank

/-- One quote of either sort. -/
def quote : Pattern := one isQuote

/-- A captured value between two quotes, which need not be of one sort. -/
def quoted (value : Pattern) : Pattern := all [quote, capture value, quote]

/-- The pattern `entry` after the opening brace of a hash that is the value of `data:`, with a
closing brace behind it and none in between; `lead` is what may stand before the entry. -/
def inDataHash (lead entry : Pattern) : Pattern :=
  all [word "data:", blanks, char '{', lead, entry, many (· != '}'), char '}']

end Pattern

end TemplatePaint
