/-!
# Waymark.Markup.Block

The structure of a document: its blocks, with running text not read yet.
-/

namespace Waymark.Markup

/-- The kinds of lists. -/
inductive ListKind where
  /-- Items with a bullet. -/
  | bullets (mark : Char)
  /-- Items with numbers, which a mark follows. -/
  | numbers (start : Nat) (mark : Char)
  deriving DecidableEq, Repr, Inhabited

/-- Whether items of two kinds can stand in one list. -/
def ListKind.agrees : ListKind → ListKind → Bool
  | .bullets a, .bullets b => a = b
  | .numbers _ a, .numbers _ b => a = b
  | _, _ => false

/-- A block of a document. -/
inductive Block where
  /-- A paragraph of running text. -/
  | paragraph (text : List Char)
  /-- A heading of a level from 1 to 6. -/
  | heading (level : Nat) (text : List Char)
  /-- Text of a program, with the language that was given. -/
  | code (language : String) (text : List Char)
  /-- HTML, passed on. -/
  | html (text : List Char)
  /-- A rule across the page. -/
  | rule
  /-- A quotation. -/
  | quote (blocks : List Block)
  /-- A list; the paragraphs of a tight list are not set apart. -/
  | list (kind : ListKind) (tight : Bool) (items : List Block)
  /-- An item of a list. -/
  | item (blocks : List Block)
  deriving Inhabited, Repr

end Waymark.Markup
