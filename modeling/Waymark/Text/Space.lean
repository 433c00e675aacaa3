/-!
# Waymark.Text.Space

The blanks of Unicode.
-/

namespace Waymark.Text

/-- Whether a character is blank: a space of any width, a tab, or a character that
ends a line. -/
def isSpace (c : Char) : Bool :=
  '\t' ≤ c && c ≤ '\r' || [' ', '\u0085', '\u00a0', '\u1680', '\u2028', '\u2029', '\u202f',
    '\u205f', '\u3000'].contains c || '\u2000' ≤ c && c ≤ '\u200a'

/-- The characters without the blanks at either end. -/
def trim (cs : List Char) : List Char :=
  ((cs.dropWhile isSpace).reverse.dropWhile isSpace).reverse

end Waymark.Text
