import Waymark.Markup.BlockReader
import Waymark.Markup.InlineReader

/-!
# Waymark.Markup.Html

Documents as HTML.

Design points:

* most blocks begin on a line of their own: a line is ended before them unless
  nothing has been written on it;
* the paragraphs of a tight list are written without tags.
-/

namespace Waymark.Markup

/-! ### Running text -/

mutual

/-- A part of running text. -/
def writeInline : Inline → String
  | .text content => escapeText content
  | .softBreak => "\n"
  | .hardBreak => "<br />\n"
  | .code content => "<code>" ++ escapeText content ++ "</code>"
  | .html content => content
  | .emphasis content => "<em>" ++ writeInlines content ++ "</em>"
  | .strong content => "<strong>" ++ writeInlines content ++ "</strong>"
  | .link address title content =>
    "<a href=\"" ++ escapeAddress address ++ titleValue title ++ "\">" ++ writeInlines content ++
      "</a>"
  | .image address title content =>
    "<img src=\"" ++ escapeAddress address ++ "\" alt=\"" ++ escapeValue (plainText content) ++
      titleValue title ++ "\" />"

/-- Running text. -/
def writeInlines : List Inline → String
  | [] => ""
  | part :: rest => writeInline part ++ writeInlines rest

/-- A title after another value, if there is one. -/
def titleValue (title : String) : String :=
  if title = "" then "" else "\" title=\"" ++ escapeValue title

end

/-! ### Blocks -/

/-- What has been written, ended if it does not end with a line end. -/
def freshLine (written : String) : String :=
  if written.toList.getLast?.all (· = '\n') then written else written ++ "\n"

/-- The tags around the items of a list. -/
def listTags : ListKind → String × String
  | .bullets _ => ("<ul>\n", "</ul>\n")
  | .numbers start _ =>
    (if start = 1 then "<ol>\n" else s!"<ol start=\"{start}\">\n", "</ol>\n")

mutual

/-- Write a block after what has been written; `tight` tells whether it stands in
an item of a tight list. -/
def writeBlock (definitions : Definitions) (tight : Bool) (written : String) : Block → String
  | .paragraph text =>
    let content := writeInlines (readInline definitions text)
    if tight then written ++ content else freshLine written ++ "<p>" ++ content ++ "</p>\n"
  | .heading level text =>
    freshLine written ++ s!"<h{level}>" ++ writeInlines (readInline definitions text) ++
      s!"</h{level}>\n"
  | .code language text =>
    let opening :=
      if language = "" then "<pre><code>"
      else "<pre><code class=\"language-" ++ escapeValue language ++ "\">"
    freshLine written ++ opening ++ escapeText (String.ofList text) ++ "</code></pre>\n"
  | .html text => written ++ String.ofList text
  | .rule => freshLine written ++ "<hr />\n"
  | .quote blocks =>
    writeBlocks definitions false (freshLine written ++ "<blockquote>\n") blocks ++
      "</blockquote>\n"
  | .list kind tight items =>
    let (opening, closing) := listTags kind
    writeBlocks definitions tight (freshLine written ++ opening) items ++ closing
  | .item blocks => writeBlocks definitions tight (freshLine written ++ "<li>") blocks ++ "</li>\n"

/-- Write blocks after what has been written. -/
def writeBlocks (definitions : Definitions) (tight : Bool) (written : String) : List Block → String
  | [] => written
  | block :: rest => writeBlocks definitions tight (writeBlock definitions tight written block) rest

end

/-- A document as HTML. -/
def render (document : String) : String :=
  let (blocks, definitions) := readBlocks document
  writeBlocks definitions false "" blocks

end Waymark.Markup
