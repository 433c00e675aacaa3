import Waymark.Text.Space
import Waymark.Unicode.Category

/-!
# Waymark.Markup.Character

The classes of characters that the markup of documents is built on.
-/

namespace Waymark.Markup

/-- Whether a character is a blank within a line. -/
def isBlank (c : Char) : Bool := c = ' ' || c = '\t' || c = '\x0b' || c = '\x0c'

/-- Whether a character is a blank or ends a line. -/
def isSeparator (c : Char) : Bool := isBlank c || c = '\n' || c = '\r'

/-- Whether a text has no visible character. -/
def isBlankText (cs : List Char) : Bool := cs.all isSeparator

/-- A text without the blanks at its start. -/
def trimStart (cs : List Char) : List Char := cs.dropWhile isSeparator

/-- A text without the blanks at its end. -/
def trimEnd (cs : List Char) : List Char := (cs.reverse.dropWhile isSeparator).reverse

/-- Whether a character is a punctuation mark of ASCII; a backslash makes such a
mark stand for itself. -/
def isAsciiMark (c : Char) : Bool := '!' ≤ c && c ≤ '~' && !c.isAlphanum

/-- The punctuation marks and symbols of all scripts. -/
def markChars : CharSet :=
  Unicode.Category.unionChars (Unicode.Category.punctuation ++ Unicode.Category.symbols)

/-- Whether a character is a punctuation mark or a symbol. -/
def isMark (c : Char) : Bool := if c.toNat < 128 then isAsciiMark c else markChars.contains c

end Waymark.Markup
