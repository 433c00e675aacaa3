import Waymark.Markup.Character

/-!
# Waymark.Markup.RawHtml

Recognising pieces of HTML in documents: they are passed on as they are.

A reader returns what follows the piece that it recognises.
-/

namespace Waymark.Markup.RawHtml

/-! ### Tags -/

/-- Whether a character may stand in the name of a tag after its first. -/
def isNameChar (c : Char) : Bool := c.isAlphanum || c = '-'

/-- Skip the name of a tag. -/
def skipName? : List Char → Option (List Char)
  | c :: cs => if c.isAlpha then some (cs.dropWhile isNameChar) else none
  | [] => none

/-- Skip the value of an attribute. -/
def skipValue? : List Char → Option (List Char)
  | '"' :: cs => (cs.dropWhile (· ≠ '"')).tail?
  | '\'' :: cs => (cs.dropWhile (· ≠ '\'')).tail?
  | cs =>
    let marks : List Char := ['"', '\'', '=', '<', '>', '\x60']
    let plain (c : Char) : Bool := !isSeparator c && !marks.contains c
    let rest := cs.dropWhile plain
    if rest.length < cs.length then some rest else none

/-- Skip the equals sign and the value of an attribute, if it has one. -/
def skipAssignment? (cs : List Char) : Option (List Char) :=
  match trimStart cs with
  | '=' :: rest => skipValue? (trimStart rest)
  | _ => some cs

/-- Whether a character may begin the name of an attribute. -/
def isAttributeStart (c : Char) : Bool := c.isAlpha || c = '_' || c = ':'

/-- Whether a character may stand in the name of an attribute. -/
def isAttributeChar (c : Char) : Bool := isAttributeStart c || c.isDigit || c = '.' || c = '-'

/-- Skip attributes and what ends a tag. Every attribute takes at least one
character, so the number of characters bounds the number of attributes. -/
def skipAttributes? : (most : Nat) → List Char → Option (List Char)
  | 0, _ => none
  | most + 1, cs =>
    match trimStart cs with
    | '>' :: rest => some rest
    | '/' :: rest => if rest.head? = some '>' then some rest.tail else none
    | [] => none
    | c :: rest =>
      if (trimStart cs).length < cs.length && isAttributeStart c then
        (skipAssignment? (rest.dropWhile isAttributeChar)).bind (skipAttributes? most)
      else none

/-- Skip a tag, from its opening angle bracket on. -/
def skipTag? : List Char → Option (List Char)
  | '<' :: '/' :: cs => do
    match trimStart (← skipName? cs) with
    | '>' :: rest => return rest
    | _ => none
  | '<' :: cs => do
    let rest ← skipName? cs
    skipAttributes? (rest.length + 1) rest
  | _ => none

/-! ### Other pieces -/

/-- What follows the first place where a text continues with `ending`. -/
def after? (ending : List Char) : List Char → Option (List Char)
  | [] => none
  | c :: cs =>
    if ending.isPrefixOf (c :: cs) then some ((c :: cs).drop ending.length) else after? ending cs

/-- Whether a text continues with some beginning. -/
def startsWith (beginning : String) (cs : List Char) : Bool := beginning.toList.isPrefixOf cs

/-- Skip a tag, a comment, an instruction, a declaration or a section of
characters. A comment may end with the hyphens that begin it. -/
def skip? (cs : List Char) : Option (List Char) :=
  if startsWith "<!--" cs then after? "-->".toList (cs.drop 2)
  else if startsWith "<?" cs then after? "?>".toList (cs.drop 2)
  else if startsWith "<![CDATA[" cs then after? "]]>".toList (cs.drop 9)
  else if startsWith "<!" cs then
    if (cs.drop 2).head?.any Char.isAlpha then after? [ '>' ] (cs.drop 2) else none
  else skipTag? cs

/-! ### Blocks -/

/-- What ends a block of HTML. -/
inductive BlockEnd where
  /-- A line with some text. -/
  | containing (text : List Char)
  /-- A blank line. -/
  | blankLine
  deriving DecidableEq, Repr

/-- The tags whose contents are not markup. -/
def verbatimTags : List String := ["pre", "style", "script", "textarea"]

/-- The tags that begin a block wherever a line starts with them. -/
def blockTags : List String := [
  "address", "article", "aside", "base", "basefont", "blockquote", "body", "caption", "center",
  "col", "colgroup", "dd", "details", "dialog", "dir", "div", "dl", "dt", "fieldset",
  "figcaption", "figure", "footer", "form", "frame", "frameset", "h1", "h2", "h3", "h4", "h5",
  "h6", "head", "header", "hr", "html", "iframe", "legend", "li", "link", "main", "menu",
  "menuitem", "nav", "noframes", "ol", "optgroup", "option", "p", "param", "search", "section",
  "summary", "table", "tbody", "td", "tfoot", "th", "thead", "title", "tr", "track", "ul"]

/-- The name at the start of a text in lower case, and what follows. -/
def tagName (cs : List Char) : String × List Char :=
  (String.ofList ((cs.takeWhile Char.isAlphanum).map Char.toLower), cs.dropWhile Char.isAlphanum)

/-- Whether a name ends where a text begins: at a blank, at the end of the line or
of the tag. -/
def endsName (cs : List Char) : Bool := cs.head?.all fun c => isSeparator c || c = '>'

/-- What ends the block that a line begins, if it begins one that may follow the
text of a paragraph. -/
def strongBlockEnd? (cs : List Char) : Option BlockEnd :=
  match cs with
  | '<' :: inside =>
    let (name, rest) := tagName inside
    let (blockName, blockRest) :=
      tagName (if inside.head? = some '/' then inside.tail else inside)
    if verbatimTags.contains name && endsName rest then
      some (.containing s!"</{name}>".toList)
    else if startsWith "!--" inside then some (.containing "-->".toList)
    else if startsWith "?" inside then some (.containing "?>".toList)
    else if startsWith "![CDATA[" inside then some (.containing "]]>".toList)
    else if startsWith "!" inside && inside.tail.head?.any Char.isAlpha then
      some (.containing [ '>' ])
    else if blockTags.contains blockName && (endsName blockRest || startsWith "/>" blockRest) then
      some .blankLine
    else none
  | _ => none

/-- What ends the block that a line begins with a tag of any name, if nothing
visible follows the tag. -/
def weakBlockEnd? (cs : List Char) : Option BlockEnd :=
  match skipTag? cs with
  | some rest => if isBlankText rest then some .blankLine else none
  | none => none

end Waymark.Markup.RawHtml
