import Waymark.Markup.Character

/-!
# Waymark.Markup.Line

Lines of a document, and how far they are indented.

Design points:

* a tab reaches to the next column that is a multiple of four, and may be used up
  in parts: what is left of it counts as blanks;
* all line ends are the same once a text is cut into lines.
-/

namespace Waymark.Markup

/-- A line of a document. -/
structure Line where
  /-- The characters before the line end. -/
  chars : List Char
  /-- Whether a line end follows. Only the last line may have none. -/
  ended : Bool
  deriving Repr

/-- Cut a text into lines, when `read` has been read of the first, last character
first. -/
def cutLines (read : List Char) : List Char → List Line
  | [] => if read = [] then [] else [⟨read.reverse, false⟩]
  | '\r' :: '\n' :: cs => ⟨read.reverse, true⟩ :: cutLines [] cs
  | c :: cs =>
    if c = '\n' ∨ c = '\r' then ⟨read.reverse, true⟩ :: cutLines [] cs
    else cutLines (c :: read) cs

/-- A position in a line. -/
structure Cursor where
  /-- The column of the next character. -/
  column : Nat := 0
  /-- The blanks before it that are left of a tab. -/
  pending : Nat := 0
  /-- The characters from there on. -/
  rest : List Char
  deriving Repr

namespace Cursor

/-- Take one column of blanks. -/
def takeBlank? (c : Cursor) : Option Cursor :=
  match c.pending, c.rest with
  | pending + 1, _ => some { c with pending }
  | 0, ' ' :: rest => some ⟨c.column + 1, 0, rest⟩
  | 0, '\t' :: rest => some ⟨c.column + (4 - c.column % 4), 3 - c.column % 4, rest⟩
  | 0, _ => none

/-- Take some columns of blanks, or as many as there are. -/
def takeBlanks (c : Cursor) : (most : Nat) → Cursor
  | 0 => c
  | most + 1 =>
    match c.takeBlank? with
    | some next => next.takeBlanks most
    | none => c

/-- The number of columns of blanks before the next character, as far as
`column` columns on. -/
def indentFrom (column : Nat) : List Char → Nat
  | ' ' :: rest => 1 + indentFrom (column + 1) rest
  | '\t' :: rest => (4 - column % 4) + indentFrom (column + (4 - column % 4)) rest
  | _ => 0

/-- The number of columns of blanks before the next character. -/
def indent (c : Cursor) : Nat := c.pending + indentFrom c.column c.rest

/-- Take a character. -/
def drop (c : Cursor) : Cursor := ⟨c.column + 1, 0, c.rest.tail⟩

/-- Take several characters. -/
def dropMany (c : Cursor) (count : Nat) : Cursor := ⟨c.column + count, 0, c.rest.drop count⟩

/-- Take all blanks. -/
def skip (c : Cursor) : Cursor := c.takeBlanks c.indent

/-- Whether nothing but blanks is left. -/
def isBlankLine (c : Cursor) : Bool := c.rest.all isBlank

/-- The characters that are left. -/
def text (c : Cursor) : List Char := List.replicate c.pending ' ' ++ c.rest

end Cursor

end Waymark.Markup
