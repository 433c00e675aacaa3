import Waymark.Span

/-!
# Waymark.Config.Tree

The statement tree of a configuration file and its canonical text.

Design points:

* a statement is a directive, which ends with a semicolon, or a block, which
  holds further statements; both begin with words;
* every block has a context, the name under which its rules are looked up; in a
  parsed file it is the first word of the block's statement;
* spans are where statements stand in the source. Diagnostics point to them, and
  locations are taken in their order, but they are no part of what a tree says:
  `Block.agrees` compares trees without them.
-/

namespace Waymark.Config

/-- A statement of a configuration file. -/
inductive Statement where
  /-- Words and a semicolon. -/
  | directive (words : List String) (span : Span)
  /-- Words and statements in braces. -/
  | block (words : List String) (context : String) (body : List Statement) (span : Span)
  deriving Inhabited, Repr

/-- The statements of one block, or of a whole file. -/
structure Block where
  /-- The name under which the block's rules are looked up. -/
  context : String
  /-- The statements in source order. -/
  statements : List Statement
  deriving Inhabited, Repr

/-- The context of the statements of a file that stand in no block. -/
def mainContext : String := "main"

namespace Statement

/-- The name and the arguments, as written. -/
def words : Statement → List String
  | directive words _ => words
  | block words _ _ _ => words

/-- Where the statement stands, from its first word to its semicolon or closing
brace. -/
def span : Statement → Span
  | directive _ span => span
  | block _ _ _ span => span

/-- The block that the statement opens, if it does. -/
def block? : Statement → Option Block
  | directive .. => none
  | block _ context body _ => some ⟨context, body⟩

/-- Whether the statement opens a block. -/
def isBlock (s : Statement) : Bool := s.block?.isSome

/-- The first word, or the empty text when there is none. -/
def name (s : Statement) : String := s.words.headD ""

/-- The words after the name. -/
def args (s : Statement) : List String := s.words.tail

end Statement

namespace Block

/-- The statements that bear a name. -/
def find (b : Block) (name : String) : List Statement :=
  b.statements.filter (·.name = name)

/-- The blocks that the statements of a name open. -/
def blocks (b : Block) (name : String) : List Block :=
  (b.find name).filterMap (·.block?)

end Block

/-! ### Canonical text -/

/-- The blanks before a statement at a depth. -/
def indentation (depth : Nat) : String := String.ofList (List.replicate (2 * depth) ' ')

mutual

/-- The canonical text of a statement: its words separated by single blanks, and
the statements of its block on lines of their own, two blanks deeper. -/
def Statement.print (depth : Nat) : Statement → String
  | .directive words _ => indentation depth ++ " ".intercalate words ++ ";\n"
  | .block words _ body _ =>
    indentation depth ++ " ".intercalate words ++ " \x7b\n" ++ Statement.printAll (depth + 1) body
      ++ indentation depth ++ "\x7d\n"

/-- The canonical text of statements at one depth. -/
def Statement.printAll (depth : Nat) : List Statement → String
  | [] => ""
  | s :: rest => s.print depth ++ Statement.printAll depth rest

end

/-- The canonical text of a block's statements. -/
def Block.print (b : Block) : String := Statement.printAll 0 b.statements

/-! ### Comparison -/

mutual

/-- Whether two statements have the same words and the same blocks. -/
def Statement.agrees : Statement → Statement → Bool
  | .directive words _, .directive words' _ => words = words'
  | .block words context body _, .block words' context' body' _ =>
    words = words' && context = context' && Statement.agreeAll body body'
  | _, _ => false

/-- Whether two lists of statements agree one by one. -/
def Statement.agreeAll : List Statement → List Statement → Bool
  | [], [] => true
  | s :: rest, s' :: rest' => s.agrees s' && Statement.agreeAll rest rest'
  | _, _ => false

end

/-- Whether two blocks are the same but for the places of their statements. -/
def Block.agrees (a b : Block) : Bool :=
  a.context = b.context && Statement.agreeAll a.statements b.statements

end Waymark.Config
