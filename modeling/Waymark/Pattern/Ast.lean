import Waymark.Pattern.Fault
import Waymark.Pattern.Term

/-!
# Waymark.Pattern.Ast

Patterns as written, before flags take effect.

Parts that can turn out to be wrong only when flags are known carry the stretch
of the pattern where they stand.
-/

namespace Waymark.Pattern

/-- What a pattern can switch on and off. -/
inductive Flag where
  /-- Case does not matter. -/
  | ignoreCase
  /-- Lines have starts and ends of their own. -/
  | multiLine
  /-- The dot matches line ends, too. -/
  | dotAll
  /-- Repetitions are short first. -/
  | swapGreed
  /-- Characters are those of Unicode. -/
  | unicode
  /-- Carriage returns end lines. -/
  | crlf
  /-- Blanks and comments in the pattern do not count. -/
  | ignoreSpace
  deriving DecidableEq, Repr

/-- Flags and whether they are switched on. -/
abbrev FlagList := List (Flag × Bool)

/-- What an escape can say about characters without naming them. -/
inductive Shorthand where
  /-- Decimal digits. -/
  | digit
  /-- Blanks. -/
  | space
  /-- Characters of words. -/
  | word
  deriving DecidableEq, Repr

/-- A property of characters that a pattern asks for. -/
inductive PropertyQuery where
  /-- The property, category or script of a name. -/
  | named (name : String)
  /-- The value of a property. -/
  | valued (property value : String)
  deriving DecidableEq, Repr

/-- A character in a pattern. -/
structure Literal where
  /-- The character. -/
  char : Char
  /-- Whether it is written with two hexadecimal digits, and so may mean a byte. -/
  isByte : Bool
  /-- Where it stands. -/
  place : Stretch
  deriving Repr, Inhabited

/-- The operations on sets of characters. -/
inductive SetOp where
  /-- What is in both. -/
  | intersection
  /-- What is in the first only. -/
  | difference
  /-- What is in one only. -/
  | symmetricDifference
  deriving DecidableEq, Repr

/-- A part of a class in brackets. -/
inductive ClassItem where
  /-- Nothing. -/
  | empty
  /-- A character. -/
  | literal (char : Literal)
  /-- The characters from one to another. -/
  | range (first last : Literal)
  /-- A named set of ASCII. -/
  | ascii (set : CharSet) (negated : Bool) (place : Stretch)
  /-- A set that an escape names. -/
  | shorthand (kind : Shorthand) (negated : Bool) (place : Stretch)
  /-- The characters of a property. -/
  | property (query : PropertyQuery) (negated : Bool) (place : Stretch)
  /-- A class inside the class. -/
  | bracketed (negated : Bool) (body : ClassItem) (place : Stretch)
  /-- Everything in either part. -/
  | union (first second : ClassItem)
  /-- An operation on two sets. -/
  | operation (op : SetOp) (left right : ClassItem)
  deriving Inhabited

/-- A condition on a position as written. -/
inductive Assertion where
  /-- The start of a line, or of the text. -/
  | startLine
  /-- The end of a line, or of the text. -/
  | endLine
  /-- The start of the text. -/
  | startText
  /-- The end of the text. -/
  | endText
  /-- A condition on words. -/
  | word (edge : WordEdge)
  deriving DecidableEq, Repr

/-- A pattern as written. -/
inductive Ast where
  /-- Nothing. -/
  | empty
  /-- A change of flags for the rest of the group. -/
  | flags (flags : FlagList)
  /-- A character. -/
  | literal (char : Literal)
  /-- Any character. -/
  | dot (place : Stretch)
  /-- A condition on the position. -/
  | assertion (assertion : Assertion)
  /-- A set that an escape names. -/
  | shorthand (kind : Shorthand) (negated : Bool) (place : Stretch)
  /-- The characters of a property. -/
  | property (query : PropertyQuery) (negated : Bool) (place : Stretch)
  /-- A class in brackets. -/
  | bracketed (negated : Bool) (body : ClassItem) (place : Stretch)
  /-- A repetition. -/
  | repetition (min : Nat) (max? : Option Nat) (body : Ast)
  /-- A group, with flags of its own. -/
  | group (flags : FlagList) (captures : Bool) (body : Ast)
  /-- One of several. -/
  | alternation (branches : List Ast)
  /-- One after the other. -/
  | concat (parts : List Ast)
  deriving Inhabited

/-- The pattern of several in a row. -/
def Ast.ofParts : List Ast → Ast
  | [] => .empty
  | [part] => part
  | parts => .concat parts

/-- The pattern of several to choose from. -/
def Ast.ofBranches : List Ast → Ast
  | [branch] => branch
  | branches => .alternation branches

/-- The union of parts of a class. -/
def ClassItem.ofParts : List ClassItem → ClassItem
  | [] => .empty
  | part :: parts => parts.foldl .union part

/-! ### Depth -/

/-- How deeply the parts of a class contain one another. -/
def ClassItem.depth : ClassItem → Nat
  | .bracketed _ body _ => 1 + body.depth
  | .union first second => max first.depth second.depth
  | .operation _ left right => 1 + max left.depth right.depth
  | _ => 0

mutual

/-- How deeply the parts of a pattern contain one another. -/
def Ast.depth : Ast → Nat
  | .bracketed _ body _ => 1 + body.depth
  | .repetition _ _ body => 1 + body.depth
  | .group _ _ body => 1 + body.depth
  | .alternation branches => 1 + Ast.maxDepth branches
  | .concat parts => 1 + Ast.maxDepth parts
  | _ => 0

/-- The greatest depth of some patterns. -/
def Ast.maxDepth : List Ast → Nat
  | [] => 0
  | ast :: rest => max ast.depth (Ast.maxDepth rest)

end

/-- The greatest depth of a pattern. -/
def maxDepth : Nat := 250

end Waymark.Pattern
