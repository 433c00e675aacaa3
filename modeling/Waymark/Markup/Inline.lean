/-!
# Waymark.Markup.Inline

What paragraphs and headings consist of.
-/

namespace Waymark.Markup

/-- A part of running text. -/
inductive Inline where
  /-- Text. -/
  | text (content : String)
  /-- The end of a line in the source. -/
  | softBreak
  /-- The end of a line in the page. -/
  | hardBreak
  /-- Text of a program. -/
  | code (content : String)
  /-- HTML, passed on. -/
  | html (content : String)
  /-- Emphasised text. -/
  | emphasis (content : List Inline)
  /-- Strongly emphasised text. -/
  | strong (content : List Inline)
  /-- A link. -/
  | link (address title : String) (content : List Inline)
  /-- An image with a description. -/
  | image (address title : String) (content : List Inline)
  deriving Inhabited, Repr

mutual

/-- The text of a part without any markup. -/
def Inline.plain : Inline → String
  | .text content | .code content | .html content => content
  | .softBreak | .hardBreak => " "
  | .emphasis content | .strong content => plainText content
  | .link _ _ content | .image _ _ content => plainText content

/-- The text of parts without any markup. -/
def plainText : List Inline → String
  | [] => ""
  | part :: rest => part.plain ++ plainText rest

end

end Waymark.Markup
