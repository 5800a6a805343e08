/-!
# Blank characters

The characters of the Unicode property White_Space, and the removal of blank
characters from the ends of a text. The class is wider than
`Char.isWhitespace`: it has the vertical tab, the form feed, the next-line
control and the spaces of other scripts.
-/

namespace TemplatePaint

/-- The character has the property White_Space. -/
def isBlank (c : Char) : Bool :=
  let n := c.toNat
  (0x09 ≤ n && n ≤ 0x0D) || n == 0x20 || n == 0x85 || n == 0xA0 || n == 0x1680 ||
    (0x2000 ≤ n && n ≤ 0x200A) || n == 0x2028 || n == 0x2029 || n == 0x202F || n == 0x205F ||
    n == 0x3000

/-- The text without the blank characters at its start. -/
def trimStart (text : List Char) : List Char := text.dropWhile isBlank

/-- The text without the blank characters at its two ends. -/
def trim (text : List Char) : List Char :=
  (trimStart (trimStart text).reverse).reverse

end TemplatePaint
