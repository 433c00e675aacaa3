import Waymark.Markup.Escape
import Waymark.Unicode.CaseFolding

/-!
# Waymark.Markup.Link

The parts of links: destinations, titles and labels, and definitions that give a
label a destination.

A reader takes the characters that are left and returns what it has read with the
characters after it.
-/

namespace Waymark.Markup

/-- Where a link leads. -/
structure Target where
  /-- The address. -/
  address : String
  /-- The title; empty if there is none. -/
  title : String
  deriving DecidableEq, Repr, Inhabited

/-- The targets of labels. A label that is defined twice keeps its first target. -/
abbrev Definitions := List (List Char × Target)

/-! ### Destinations -/

/-- Read a destination between angle brackets, when the opening one has been
read. -/
def readBracketed? (read : List Char) : List Char → Option (List Char × List Char)
  | [] => none
  | '>' :: cs => some (read.reverse, cs)
  | '\\' :: c :: cs =>
    if isAsciiMark c then readBracketed? (c :: '\\' :: read) cs
    else readBracketed? ('\\' :: read) (c :: cs)
  | c :: cs => if c = '<' ∨ c = '\n' then none else readBracketed? (c :: read) cs
termination_by cs => cs.length

/-- Read a destination up to a blank, a control character or a closing parenthesis
without its partner. `nest` counts the open parentheses, of which there may be at
most one more than `most`. -/
def readBare? (most nest : Nat) (read : List Char) : List Char → Option (List Char × List Char)
  | [] => if nest = 0 then some (read.reverse, []) else none
  | '\\' :: c :: cs =>
    if isAsciiMark c then readBare? most nest (c :: '\\' :: read) cs
    else readBare? most nest ('\\' :: read) (c :: cs)
  | c :: cs =>
    if c ≤ ' ' ∨ c = ')' ∧ nest = 0 then if nest = 0 then some (read.reverse, c :: cs) else none
    else if c = '(' then
      if most < nest then none else readBare? most (nest + 1) (c :: read) cs
    else readBare? most (if c = ')' then nest - 1 else nest) (c :: read) cs
termination_by cs => cs.length

/-- Read a destination. -/
def readDestination? (most : Nat) : List Char → Option (List Char × List Char)
  | '<' :: cs => readBracketed? [] cs
  | cs => readBare? most 0 [] cs

/-! ### Titles -/

/-- Read a title up to the character that closes it. -/
def readTitleRest? (opening closing : Char) (read : List Char) :
    List Char → Option (List Char × List Char)
  | [] => none
  | '\\' :: c :: cs =>
    if isAsciiMark c then readTitleRest? opening closing (c :: '\\' :: read) cs
    else readTitleRest? opening closing ('\\' :: read) (c :: cs)
  | c :: cs =>
    if c = closing then some (read.reverse, cs)
    else if c = opening then none
    else readTitleRest? opening closing (c :: read) cs
termination_by cs => cs.length

/-- Read a title in quotes or parentheses. -/
def readTitle? : List Char → Option (List Char × List Char)
  | '"' :: cs => readTitleRest? '"' '"' [] cs
  | '\'' :: cs => readTitleRest? '\'' '\'' [] cs
  | '(' :: cs => readTitleRest? '(' ')' [] cs
  | _ => none

/-! ### Labels -/

/-- Read a label up to its closing bracket. -/
def readLabelRest? (read : List Char) : List Char → Option (List Char × List Char)
  | [] => none
  | '\\' :: c :: cs => readLabelRest? (c :: '\\' :: read) cs
  | c :: cs =>
    if c = ']' then if isBlankText read then none else some (read.reverse, cs)
    else if c = '[' then none
    else readLabelRest? (c :: read) cs
termination_by cs => cs.length

/-- Read a label in brackets. -/
def readLabel? : List Char → Option (List Char × List Char)
  | '[' :: cs => readLabelRest? [] cs
  | _ => none

/-- Put one blank in the place of several. -/
def joinBlanks (afterBlank : Bool) : List Char → List Char
  | [] => []
  | c :: cs =>
    if isSeparator c then if afterBlank then joinBlanks true cs else ' ' :: joinBlanks true cs
    else c :: joinBlanks false cs

/-- A label as it is compared: without regard to case and to the number of
blanks. -/
def labelKey (label : List Char) : List Char :=
  Unicode.foldText (joinBlanks true (trimEnd label))

/-- The target of a label. -/
def Definitions.target? (definitions : Definitions) (label : List Char) : Option Target :=
  definitions.lookup (labelKey label)

/-! ### Links in running text -/

/-- The target that a written destination and title mean. -/
def targetOf (destination title : List Char) : Target :=
  ⟨String.ofList (unescape destination), String.ofList (unescape title)⟩

/-- Read the destination and the title of a link, from its opening parenthesis to
its closing one. -/
def readTarget? : List Char → Option (Target × List Char)
  | '(' :: cs => do
    let (destination, rest) ← readDestination? 32 (trimStart cs)
    let next := trimStart rest
    let titled := if next.length < rest.length then readTitle? next else none
    let (title, rest) := titled.getD ([], next)
    match trimStart rest with
    | ')' :: rest => return (targetOf destination title, rest)
    | _ => none
  | _ => none

/-! ### Definitions -/

/-- What follows the end of a line, if the rest of the line is blank. -/
def endOfLine? (cs : List Char) : Option (List Char) :=
  match cs.dropWhile isBlank with
  | [] => some []
  | '\n' :: rest => some rest
  | _ => none

/-- Read a definition, which ends with a line. A title that is not followed by the
end of its line does not belong to the definition if it is on a line of its own. -/
def readDefinition? (cs : List Char) : Option ((List Char × Target) × List Char) := do
  let (label, rest) ← readLabel? cs
  match rest with
  | ':' :: rest =>
    let start := trimStart rest
    let (destination, rest) ← readDestination? 1 start
    if rest.length = start.length then none
    else
      let untitled := (endOfLine? rest).map fun rest =>
        ((labelKey label, targetOf destination []), rest)
      let next := trimStart rest
      let titled := do
        if next.length = rest.length then none
        let (title, rest) ← readTitle? next
        let rest ← endOfLine? rest
        return ((labelKey label, targetOf destination title), rest)
      titled.or untitled
  | _ => none

/-- Read all definitions at the start of a paragraph. -/
def readDefinitions (definitions : Definitions) (cs : List Char) : Definitions × List Char :=
  match readDefinition? cs with
  | some (definition, rest) =>
    if rest.length < cs.length then readDefinitions (definitions ++ [definition]) rest
    else (definitions, cs)
  | none => (definitions, cs)
termination_by cs.length

end Waymark.Markup
