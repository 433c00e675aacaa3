import Waymark.Markup.Block
import Waymark.Markup.Line
import Waymark.Markup.Link
import Waymark.Markup.RawHtml

/-!
# Waymark.Markup.BlockReader

Reading the structure of a document, line by line.

Design points:

* blocks that hold blocks and are open are kept on a stack, innermost first; next
  to them there is at most one open block of text;
* a line first goes down the open blocks that it continues, then it may open new
  ones, and what is left of it is text. Only the text of a paragraph may go on in
  a line that does not continue all blocks around it;
* a list is tight until a blank line separates two of its items, or two blocks in
  one of them.
-/

namespace Waymark.Markup

/-! ### Drafts -/

/-- What holds blocks. -/
inductive Holder where
  /-- A quotation. -/
  | quote
  /-- An item, whose lines are indented by some columns. -/
  | item (width : Nat)
  /-- A list. -/
  | list (kind : ListKind) (tight : Bool)
  deriving Repr

/-- An open block that holds blocks. -/
structure Frame where
  /-- What it is. -/
  holder : Holder
  /-- The complete blocks in it. -/
  blocks : List Block := []

/-- The block that an open one becomes. -/
def Frame.toBlock (f : Frame) : Block :=
  match f.holder with
  | .quote => .quote f.blocks
  | .item _ => .item f.blocks
  | .list kind tight => .list kind tight f.blocks

/-- An open block of text. -/
inductive Leaf where
  /-- There is none. -/
  | none
  /-- A paragraph; its lines have no blanks at the start. -/
  | paragraph (lines : List (List Char))
  /-- Code that is set apart by indentation. -/
  | indented (lines : List Line)
  /-- Code between fences. -/
  | fenced (mark : Char) (length indent : Nat) (language : String) (lines : List Line)
  /-- HTML. -/
  | html (ending : RawHtml.BlockEnd) (lines : List Line)

/-- Whether the open block of text is a paragraph. -/
def Leaf.isParagraph : Leaf → Bool
  | paragraph _ => true
  | _ => false

/-- Whether there is no open block of text. -/
def Leaf.isNone : Leaf → Bool
  | none => true
  | _ => false

/-- A document as far as it has been read. -/
structure Draft where
  /-- The complete blocks outside of the open ones. -/
  root : List Block := []
  /-- The open blocks that hold blocks, innermost first. -/
  frames : List Frame := []
  /-- The open block of text. -/
  leaf : Leaf := .none
  /-- Whether a blank line came last. -/
  afterBlank : Bool := false
  /-- The definitions read so far. -/
  definitions : Definitions := []

/-- The text of lines, with their line ends. -/
def joinLines (lines : List Line) : List Char :=
  lines.flatMap fun line => line.chars ++ (if line.ended then ['\n'] else [])

/-- Lines without the blank ones at their end. -/
def dropBlankEnd (lines : List Line) : List Line :=
  (lines.reverse.dropWhile fun line => line.chars.all isBlank).reverse

/-- The text of the lines of a paragraph. -/
def paragraphText (lines : List (List Char)) : List Char := ['\n'].intercalate lines

namespace Draft

/-! ### Completing blocks -/

/-- Add a complete block to the innermost open one. -/
def add (d : Draft) (block : Block) : Draft :=
  match d.frames with
  | [] => { d with root := d.root ++ [block] }
  | f :: outer => { d with frames := { f with blocks := f.blocks ++ [block] } :: outer }

/-- Complete the open block of text. -/
def closeLeaf (d : Draft) : Draft :=
  let closed := { d with leaf := .none }
  match d.leaf with
  | .none => d
  | .paragraph lines =>
    let (definitions, rest) := readDefinitions d.definitions (paragraphText lines)
    let closed := { closed with definitions }
    if isBlankText rest then closed else closed.add (.paragraph (trimEnd rest))
  | .indented lines => closed.add (.code "" (joinLines (dropBlankEnd lines)))
  | .fenced _ _ _ language lines => closed.add (.code language (joinLines lines))
  | .html _ lines => closed.add (.html (joinLines lines))

/-- Complete the innermost open blocks, as many as `count` says. -/
def closeFrames (d : Draft) : (count : Nat) → Draft
  | 0 => d
  | count + 1 =>
    match d.frames with
    | [] => d
    | f :: outer => ({ d with frames := outer }.add f.toBlock).closeFrames count

/-- Complete the open block of text and those that hold it, but for the `depth`
outermost. -/
def closeTo (d : Draft) (depth : Nat) : Draft :=
  d.closeLeaf.closeFrames (d.frames.length - depth)

/-- Complete the innermost open block if it is a list: what comes next is no item
of it. -/
def leaveList (d : Draft) : Draft :=
  match d.frames with
  | ⟨.list .., _⟩ :: _ => d.closeFrames 1
  | _ => d

/-- Make the list loose that the innermost open block is an item of. -/
def loosen (d : Draft) : Draft :=
  match d.frames with
  | item :: ⟨.list kind _, items⟩ :: outer =>
    { d with frames := item :: ⟨.list kind false, items⟩ :: outer }
  | _ => d

/-- Get ready for a new block in the innermost open one. -/
def beginBlock (d : Draft) : Draft :=
  let d := d.leaveList
  if d.afterBlank then { d.loosen with afterBlank := false } else d

/-- Open a block that holds blocks. -/
def push (d : Draft) (holder : Holder) : Draft := { d with frames := ⟨holder, []⟩ :: d.frames }

/-- Open an item of a list, and the list if the innermost open block is not a list
of that kind. -/
def pushItem (d : Draft) (kind : ListKind) (width : Nat) : Draft :=
  let newList (d : Draft) : Draft :=
    { d.beginBlock.push (.list kind true) with afterBlank := false }
  let d := match d.frames with
    | ⟨.list open? tight, items⟩ :: outer =>
      if open?.agrees kind then
        { d with frames := ⟨.list open? (tight && !d.afterBlank), items⟩ :: outer }
      else newList d
    | _ => newList d
  d.push (.item width)

/-! ### Continuing blocks -/

/-- Go down the open blocks, outermost first, that a line continues: their number
and what is left of the line. An item without any content does not go on after a
blank line. -/
def descend (leaf : Leaf) (cursor : Cursor) : List Frame → Nat × Cursor
  | [] => (0, cursor)
  | f :: inner =>
    let next? : Option Cursor :=
      match f.holder with
      | .list .. => some cursor
      | .quote =>
        let start := cursor.skip
        if cursor.indent < 4 && start.rest.head? = some '>' then some (start.drop.takeBlanks 1)
        else none
      | .item width =>
        if cursor.isBlankLine then
          if f.blocks.isEmpty && inner.isEmpty && leaf.isNone then none
          else some (cursor.takeBlanks width)
        else if width ≤ cursor.indent then some (cursor.takeBlanks width)
        else none
    match next? with
    | none => (0, cursor)
    | some next =>
      let (count, cursor) := descend leaf next inner
      (count + 1, cursor)

/-! ### Recognising blocks -/

/-- Whether a line is a rule: three or more of one mark, and blanks. -/
def isRule (cs : List Char) : Bool :=
  let marks := cs.filter (!isBlank ·)
  match marks with
  | c :: _ => (c = '*' || c = '-' || c = '_') && marks.all (· = c) && 3 ≤ marks.length
  | [] => false

/-- Read the marker of an item: its kind and its length. -/
def readMarker? (cs : List Char) : Option (ListKind × Nat) :=
  let apart (rest : List Char) : Bool := rest.head?.all isBlank
  match cs with
  | [] => none
  | c :: rest =>
    if c = '-' ∨ c = '+' ∨ c = '*' then if apart rest then some (.bullets c, 1) else none
    else
      let digits := cs.takeWhile Char.isDigit
      match cs.drop digits.length with
      | mark :: rest =>
        if (mark = '.' ∨ mark = ')') ∧ 1 ≤ digits.length ∧ digits.length ≤ 9 ∧ apart rest then
          let start := digits.foldl (fun n c => 10 * n + (c.toNat - '0'.toNat)) 0
          some (.numbers start mark, digits.length + 1)
        else none
      | [] => none

/-- Whether an item may follow the text of a paragraph: it is not empty, and it has
a bullet or the number one. -/
def interrupts (kind : ListKind) (rest : List Char) : Bool :=
  !rest.all isBlank &&
    match kind with
    | .bullets _ => true
    | .numbers start _ => start = 1

/-- The level and the text of a heading that a line is. -/
def readHeading? (cs : List Char) : Option (Nat × List Char) :=
  let rest := cs.dropWhile (· = '#')
  let level := cs.length - rest.length
  if 1 ≤ level && level ≤ 6 && rest.head?.all isBlank then
    let text := trimEnd (trimStart rest)
    let bare := (text.reverse.dropWhile (· = '#')).reverse
    let closed := bare.length < text.length && bare.getLast?.all isBlank
    some (level, if closed then trimEnd bare else text)
  else none

/-- The mark, the length and the language of a fence that a line opens. -/
def readFence? (cs : List Char) : Option (Char × Nat × String) :=
  match cs with
  | [] => none
  | mark :: _ =>
    let rest := cs.dropWhile (· = mark)
    let length := cs.length - rest.length
    if (mark = '\x60' && !rest.contains '\x60' || mark = '~') && 3 ≤ length then
      let info := unescape (trimEnd (trimStart rest))
      some (mark, length, String.ofList (info.takeWhile (· ≠ ' ')))
    else none

/-- Whether a line closes a fence. -/
def closesFence (mark : Char) (length : Nat) (cs : List Char) : Bool :=
  let rest := cs.dropWhile (· = mark)
  length ≤ cs.length - rest.length && rest.all isBlank

/-- The level of the heading that a line makes of the paragraph before it. -/
def underlineLevel? (cs : List Char) : Option Nat :=
  match trimEnd cs with
  | [] => none
  | c :: rest =>
    if rest.any (· ≠ c) then none else if c = '=' then some 1 else if c = '-' then some 2 else none

/-! ### Opening blocks -/

/-- Open the blocks that hold blocks whose beginnings a line has: the draft, the
number of open blocks that the line belongs to, what is left of the line, and
whether any was opened. `inParagraph` tells whether the line could go on with a
paragraph. -/
def openHolders (d : Draft) (depth : Nat) (cursor : Cursor) (inParagraph opened : Bool) :
    (most : Nat) → Draft × Nat × Cursor × Bool
  | 0 => (d, depth, cursor, opened)
  | most + 1 =>
    let start := cursor.skip
    if 4 ≤ cursor.indent then (d, depth, cursor, opened)
    else if start.rest.head? = some '>' then
      let d := ((d.closeTo depth).beginBlock).push .quote
      openHolders d d.frames.length (start.drop.takeBlanks 1) false true most
    else
      match if isRule start.rest then none else readMarker? start.rest with
      | none => (d, depth, cursor, opened)
      | some (kind, length) =>
        let after := start.dropMany length
        if inParagraph && !interrupts kind after.rest then (d, depth, cursor, opened)
        else
          let blanks := if after.isBlankLine || 5 ≤ after.indent then 1 else after.indent
          let d := (d.closeTo depth).pushItem kind (cursor.indent + length + blanks)
          openHolders d d.frames.length (after.takeBlanks blanks) false true most

/-- Add a line of HTML, and complete the block if the line ends it. -/
def addHtml (d : Draft) (ending : RawHtml.BlockEnd) (lines : List Line) (line : Line) : Draft :=
  let d := { d with leaf := .html ending (lines ++ [line]) }
  match ending with
  | .containing text => if (RawHtml.after? text line.chars).isSome then d.closeLeaf else d
  | .blankLine => d

/-- Open the block of text that a line begins, or add the line to a paragraph.
`depth` is the number of open blocks that the line belongs to, and `inParagraph`
tells whether it belongs to an open paragraph. -/
def openLeaf (d : Draft) (depth : Nat) (cursor : Cursor) (ended inParagraph : Bool) : Draft :=
  let start := cursor.skip
  let text := start.rest
  let fresh := (d.closeTo depth).beginBlock
  let underlined? : Option Draft :=
    match inParagraph, underlineLevel? text, d.leaf with
    | true, some level, .paragraph lines =>
      let (definitions, rest) := readDefinitions d.definitions (paragraphText lines)
      if isBlankText rest then none
      else some ({ d with leaf := .none, definitions }.add (.heading level (trimEnd rest)))
    | _, _, _ => none
  let html? :=
    (RawHtml.strongBlockEnd? text).or
      (if d.leaf.isParagraph then none else RawHtml.weakBlockEnd? text)
  let plain : Draft :=
    match d.leaf with
    | .paragraph lines => { d with leaf := .paragraph (lines ++ [text]) }
    | _ =>
      if 4 ≤ cursor.indent then
        { fresh with leaf := .indented [⟨(cursor.takeBlanks 4).text, ended⟩] }
      else { fresh with leaf := .paragraph [text] }
  if 4 ≤ cursor.indent then plain
  else
    match underlined?, html?, readHeading? text, readFence? text with
    | some d, _, _, _ => d
    | none, some ending, _, _ => fresh.addHtml ending [] ⟨cursor.text, ended⟩
    | none, none, some (level, text), _ => fresh.add (.heading level text)
    | none, none, none, some (mark, length, language) =>
      { fresh with leaf := .fenced mark length cursor.indent language [] }
    | none, none, none, none => if isRule text then fresh.add .rule else plain

/-! ### Lines -/

/-- Add a line that belongs to the open block of text, if that takes lines as they
are. -/
def continueLeaf? (d : Draft) (cursor : Cursor) (ended : Bool) : Option Draft :=
  match d.leaf with
  | .fenced mark length indent language lines =>
    if cursor.indent < 4 && closesFence mark length cursor.skip.rest then some d.closeLeaf
    else
      let line : Line := ⟨(cursor.takeBlanks indent).text, ended⟩
      some { d with leaf := .fenced mark length indent language (lines ++ [line]) }
  | .html ending lines =>
    if ending = .blankLine && cursor.isBlankLine then none
    else some (d.addHtml ending lines ⟨cursor.text, ended⟩)
  | .indented lines =>
    if cursor.isBlankLine || 4 ≤ cursor.indent then
      some { d with
        leaf := .indented (lines ++ [⟨(cursor.takeBlanks 4).text, ended⟩])
        afterBlank := cursor.isBlankLine }
    else none
  | .none | .paragraph _ => none

/-- Note a blank line. In a quotation it separates nothing around it, and right
after the marker of an item it is part of the item's beginning. -/
def noteBlank (d : Draft) (opened : Bool) : Draft :=
  match d.frames with
  | ⟨.quote, _⟩ :: _ => d
  | _ => if opened then d else { d with afterBlank := true }

/-- Read a line. -/
def readLine (d : Draft) (line : Line) : Draft :=
  let (depth, cursor) := descend d.leaf { rest := line.chars } d.frames.reverse
  let whole := depth = d.frames.length
  match if whole then d.continueLeaf? cursor line.ended else none with
  | some d => d
  | none =>
    let inParagraph := whole && d.leaf.isParagraph
    let (d, depth, cursor, opened) :=
      d.openHolders depth cursor inParagraph false (line.chars.length + 1)
    if cursor.isBlankLine then (d.closeTo depth).noteBlank opened
    else d.openLeaf depth cursor line.ended inParagraph

end Draft

/-- Read the structure of a document: its blocks and its definitions. -/
def readBlocks (source : String) : List Block × Definitions :=
  let d := ((cutLines [] source.toList).foldl Draft.readLine {}).closeTo 0
  (d.root, d.definitions)

end Waymark.Markup
