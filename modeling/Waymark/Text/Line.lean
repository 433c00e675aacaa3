import Waymark.Span
import Waymark.Text.Space

/-!
# Waymark.Text.Line

The lines of a text and places in them.

Design points:

* a line keeps the characters that end it, so the lines of a text, one after the
  other, are the text;
* a text has at least one line, and no empty line follows the last line end.
-/

namespace Waymark.Text

/-- Whether a character ends a line. -/
def endsLine (c : Char) : Bool :=
  ['\n', '\x0b', '\x0c', '\r', '\u0085', '\u2028', '\u2029'].contains c

/-- Cut a text after every line end. A carriage return and a line feed are one
end. -/
def cutLines : List Char → List (List Char)
  | [] => []
  | '\r' :: '\n' :: cs => ['\r', '\n'] :: cutLines cs
  | c :: cs =>
    if endsLine c then [c] :: cutLines cs
    else
      match cutLines cs with
      | [] => [[c]]
      | line :: more => (c :: line) :: more

theorem flatten_cutLines (cs : List Char) : (cutLines cs).flatten = cs := by
  fun_induction cutLines cs <;> simp_all

/-- The lines of a text. -/
def linesOf (source : String) : List (List Char) :=
  match cutLines source.toList with
  | [] => [[]]
  | lines => lines

/-- A line without the blanks and the line end after its last visible
character. -/
def visible (line : List Char) : List Char := (line.reverse.dropWhile isSpace).reverse

/-- A place in a text, counted from zero. -/
structure LinePlace where
  /-- The line. -/
  line : Nat
  /-- The number of characters of the line that start before the place. -/
  column : Nat
  deriving DecidableEq, Repr

/-- The number of characters that start in the first bytes of a text. -/
def charsWithin (bytes : Nat) : List Char → Nat
  | [] => 0
  | c :: cs => if bytes = 0 then 0 else 1 + charsWithin (bytes - c.utf8Size) cs

/-- The place of a byte in lines that start with the line of a number. What comes
after the last line is placed in it. -/
def placeFrom (number offset : Nat) : List (List Char) → LinePlace
  | [] => ⟨number, 0⟩
  | [line] => ⟨number, charsWithin offset line⟩
  | line :: next :: more =>
    if offset < byteLength line then ⟨number, charsWithin offset line⟩
    else placeFrom (number + 1) (offset - byteLength line) (next :: more)

/-- The place of a byte of a text. -/
def placeOf (source : String) (offset : Nat) : LinePlace := placeFrom 0 offset (linesOf source)

end Waymark.Text
