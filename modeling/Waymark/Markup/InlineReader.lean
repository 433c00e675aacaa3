import Waymark.Markup.Emphasis
import Waymark.Markup.Link
import Waymark.Markup.RawHtml

/-!
# Waymark.Markup.InlineReader

Reading running text.

Design points:

* brackets that wait for their partners are kept on a stack, innermost first; a
  bracket keeps the pieces before it, so that what is inside can become a link or
  fall back to text;
* emphasis is looked for when a link is complete and at the end, so that it never
  crosses the border of a link.
-/

namespace Waymark.Markup

/-! ### State -/

/-- An opening bracket that waits for its partner. -/
structure OpenBracket where
  /-- Whether it would begin an image. -/
  isImage : Bool
  /-- Whether it may still begin a link. Links contain no links. -/
  active : Bool := true
  /-- What follows it in the source. -/
  inside : List Char
  /-- Whether another bracket has been opened inside. -/
  hasBracket : Bool := false
  /-- The pieces before it, last first. -/
  before : List Piece

/-- Running text as far as it has been read. -/
structure InlineState where
  /-- The pieces since the innermost open bracket, last first. -/
  pieces : List Piece := []
  /-- The open brackets, innermost first. -/
  brackets : List OpenBracket := []

namespace InlineState

/-- Add a part. -/
def add (s : InlineState) (part : Inline) : InlineState :=
  { s with pieces := .done part :: s.pieces }

/-- Add text. -/
def addText (s : InlineState) (text : List Char) : InlineState :=
  s.add (.text (String.ofList text))

/-- Open a bracket, which `inside` follows. -/
def openBracket (s : InlineState) (isImage : Bool) (inside : List Char) : InlineState :=
  let outer := match s.brackets with
    | b :: bs => { b with hasBracket := true } :: bs
    | [] => []
  { pieces := [], brackets := { isImage, inside, before := s.pieces } :: outer }

/-- The text of an opening bracket. -/
def bracketText (b : OpenBracket) : Piece := .done (.text (if b.isImage then "![" else "["))

/-- Take the innermost bracket as text. -/
def dropBracket (s : InlineState) : InlineState :=
  match s.brackets with
  | [] => s
  | b :: outer => { pieces := s.pieces ++ bracketText b :: b.before, brackets := outer }

/-- Make a link of what the innermost bracket contains. Around a link no other
link can begin. -/
def closeBracket (s : InlineState) (target : Target) : InlineState :=
  match s.brackets with
  | [] => s
  | b :: outer =>
    let content := emphasize s.pieces.reverse
    if b.isImage then
      { pieces := .done (.image target.address target.title content) :: b.before
        brackets := outer }
    else
      { pieces := .done (.link target.address target.title content) :: b.before
        brackets := outer.map fun o => { o with active := o.active && o.isImage } }

/-- All parts of the text read. -/
def finish (s : InlineState) : List Inline :=
  let pieces := s.brackets.foldl (fun pieces b => pieces ++ bracketText b :: b.before) s.pieces
  emphasize pieces.reverse

end InlineState

/-! ### Links -/

/-- The target of a bracket after whose partner `rest` follows: given in
parentheses, by a label in brackets, or by the text in the bracket itself. -/
def linkTarget? (definitions : Definitions) (b : OpenBracket) (rest : List Char) :
    Option (Target × List Char) :=
  match readTarget? rest with
  | some found => some found
  | none =>
    let content := b.inside.take (b.inside.length - rest.length - 1)
    let own := if b.hasBracket then none else definitions.target? content
    match rest, readLabel? rest with
    | '[' :: ']' :: after, _ => own.map (·, after)
    | _, some (label, after) => (definitions.target? label).map (·, after)
    | _, none => own.map (·, rest)

/-- Read a closing bracket, which `rest` follows. -/
def readCloseBracket (definitions : Definitions) (s : InlineState) (rest : List Char) :
    InlineState × List Char :=
  match s.brackets with
  | [] => (s.addText [']'], rest)
  | b :: _ =>
    match if b.active then linkTarget? definitions b rest else none with
    | some (target, after) => (s.closeBracket target, after)
    | none => (s.dropBracket.addText [']'], rest)

/-! ### Code -/

/-- Find a run of exactly `length` backticks: what precedes it and what follows.
`inRun` tells whether a longer run has begun. -/
def findFence? (length : Nat) (inRun : Bool) (read : List Char) :
    List Char → Option (List Char × List Char)
  | [] => none
  | c :: cs =>
    if c = '\x60' then
      let rest := cs.dropWhile (· = '\x60')
      if !inRun && cs.length - rest.length + 1 = length then some (read.reverse, rest)
      else findFence? length true (c :: read) cs
    else findFence? length false (c :: read) cs

/-- The text of code: line ends count as blanks, and one blank at both ends does
not belong to it unless there is nothing else. -/
def codeText (written : List Char) : String :=
  let spaced := written.map fun c => if c = '\n' then ' ' else c
  let padded := spaced.head? = some ' ' && spaced.getLast? = some ' ' && spaced.any (· ≠ ' ')
  String.ofList (if padded then spaced.tail.dropLast else spaced)

/-- Read a run of backticks, which `cs` begins with. -/
def readCode (s : InlineState) (cs : List Char) : InlineState × List Char :=
  let rest := cs.dropWhile (· = '\x60')
  let marks := cs.takeWhile (· = '\x60')
  match findFence? marks.length false [] rest with
  | some (code, after) => (s.add (.code (codeText code)), after)
  | none => (s.addText marks, rest)

/-! ### Addresses and HTML in angle brackets -/

/-- Whether a character may stand in the scheme of an address. -/
def isSchemeChar (c : Char) : Bool := c.isAlphanum || c = '+' || c = '.' || c = '-'

/-- Read an address with a scheme and the closing angle bracket. -/
def readAddress? (cs : List Char) : Option (List Char × List Char) :=
  let scheme := cs.takeWhile isSchemeChar
  let address := cs.takeWhile fun c => ' ' < c && c ≠ '<' && c ≠ '>'
  match cs.drop scheme.length, cs.drop address.length with
  | ':' :: _, '>' :: rest =>
    if cs.head?.any Char.isAlpha && 2 ≤ scheme.length && scheme.length ≤ 32 then
      some (address, rest)
    else none
  | _, _ => none

/-- Whether a character may stand before the at sign of a mail address. -/
def isMailboxChar (c : Char) : Bool :=
  c.isAlphanum || ".!#$%&'*+/=?^_`\x7b|\x7d~-".toList.contains c

/-- The labels of a domain name, when some characters of the first have been
read. -/
def domainLabels (label : List Char) : List Char → List (List Char)
  | [] => [label]
  | c :: cs => if c = '.' then label :: domainLabels [] cs else domainLabels (label ++ [c]) cs

/-- Whether a text may be a label of a domain name. -/
def isDomainLabel (label : List Char) : Bool :=
  label ≠ [] && label.length ≤ 63 && label.head? ≠ some '-' && label.getLast? ≠ some '-'

/-- Read a mail address and the closing angle bracket. -/
def readMailAddress? (cs : List Char) : Option (List Char × List Char) :=
  let mailbox := cs.takeWhile isMailboxChar
  match cs.drop mailbox.length with
  | '@' :: behind =>
    let domain := behind.takeWhile fun c => c.isAlphanum || c = '-' || c = '.'
    match behind.drop domain.length with
    | '>' :: rest =>
      if mailbox ≠ [] && (domainLabels [] domain).all isDomainLabel then
        some (mailbox ++ '@' :: domain, rest)
      else none
    | _ => none
  | _ => none

/-- Read an opening angle bracket, which `rest` follows. -/
def readAngle (s : InlineState) (rest : List Char) : InlineState × List Char :=
  let linked (scheme : String) (address : List Char) : InlineState :=
    let text := String.ofList address
    s.add (.link (scheme ++ text) "" [.text text])
  match readAddress? rest, readMailAddress? rest, RawHtml.skip? ('<' :: rest) with
  | some (address, after), _, _ => (linked "" address, after)
  | none, some (address, after), _ => (linked "mailto:" address, after)
  | none, none, some after =>
    (s.add (.html (String.ofList (('<' :: rest).take (rest.length + 1 - after.length)))), after)
  | none, none, none => (s.addText ['<'], rest)

/-! ### Single steps -/

/-- Read what follows a backslash. -/
def readBackslash (s : InlineState) : List Char → InlineState × List Char
  | '\n' :: rest => (s.add .hardBreak, rest)
  | c :: rest => if isAsciiMark c then (s.addText [c], rest) else (s.addText ['\\'], c :: rest)
  | [] => (s.addText ['\\'], [])

/-- Read blanks, which `cs` begins with. At the end of a line they are not shown;
two of them break the line. -/
def readBlanks (s : InlineState) (cs : List Char) : InlineState × List Char :=
  let blanks := cs.takeWhile isBlank
  match cs.drop blanks.length with
  | [] => (s, [])
  | '\n' :: rest => (s.add (if 2 ≤ blanks.length then .hardBreak else .softBreak), rest)
  | rest => (s.addText blanks, rest)

/-- Read a run of marks, which `cs` begins with; `before?` is the character before
it. -/
def readRun (s : InlineState) (before? : Option Char) (mark : Char) (cs : List Char) :
    InlineState × List Char :=
  let rest := cs.dropWhile (· = mark)
  let run := Run.between before? rest.head? mark (cs.length - rest.length)
  ({ s with pieces := .run run :: s.pieces }, rest)

/-- The characters that may mean something else than themselves. -/
def specialChars : List Char := ['\n', '\\', '\x60', '*', '_', '[', ']', '!', '<', '&']

/-- Whether a character always stands for itself. -/
def isPlain (c : Char) : Bool := !isBlank c && !specialChars.contains c

/-- Read the next part of running text, which begins with `c`; `before?` is the
character before it. -/
def inlineStep (definitions : Definitions) (s : InlineState) (before? : Option Char) (c : Char)
    (cs : List Char) : InlineState × List Char :=
  if isBlank c then readBlanks s (c :: cs)
  else
    match c, cs with
    | '\n', _ => (s.add .softBreak, cs)
    | '\\', _ => readBackslash s cs
    | '\x60', _ => readCode s (c :: cs)
    | '*', _ | '_', _ => readRun s before? c (c :: cs)
    | '[', _ => (s.openBracket false cs, cs)
    | '!', '[' :: rest => (s.openBracket true rest, rest)
    | ']', _ => readCloseBracket definitions s cs
    | '<', _ => readAngle s cs
    | '&', _ =>
      match readEntity? cs with
      | some (chars, rest) => (s.addText chars, rest)
      | none => (s.addText ['&'], cs)
    | _, _ => (s.addText (c :: cs.takeWhile isPlain), cs.dropWhile isPlain)

/-- Read the rest `cs` of a running text. A step that would take nothing is
followed by one on a shorter text, so reading ends. -/
def readInlineFrom (definitions : Definitions) (text : List Char) (s : InlineState)
    (cs : List Char) : InlineState :=
  match cs with
  | [] => s
  | c :: shorter =>
    let read := text.length - (shorter.length + 1)
    let before? := if read = 0 then none else text[read - 1]?
    let (next, rest) := inlineStep definitions s before? c shorter
    if rest.length ≤ shorter.length then readInlineFrom definitions text next rest
    else readInlineFrom definitions text next shorter
termination_by cs.length

/-- Read a running text. -/
def readInline (definitions : Definitions) (text : List Char) : List Inline :=
  (readInlineFrom definitions text {} text).finish

end Waymark.Markup
