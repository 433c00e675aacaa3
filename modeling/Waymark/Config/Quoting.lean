import Waymark.Config.Token.Lexer

/-!
# Waymark.Config.Quoting

The value of a word: a quoted word stands for the text between its quotes, in
which a backslash before the quote character stands for that character alone.
-/

namespace Waymark.Config

/-- Drop the backslash before every occurrence of the quote that has one. -/
def unescape (quote : Char) : List Char → List Char
  | [] => []
  | [c] => [c]
  | c :: d :: cs =>
    if c = '\\' ∧ d = quote then d :: unescape quote cs else c :: unescape quote (d :: cs)

/-- The characters that a word stands for. -/
def unquoteChars : List Char → List Char
  | [] => []
  | c :: cs =>
    if isQuote c ∧ cs.getLast? = some c then unescape c cs.dropLast else c :: cs

/-- The text that a word stands for. A word whose first and last characters are
not the same quote stands for itself. -/
def unquote (word : String) : String :=
  String.ofList (unquoteChars word.toList)

end Waymark.Config
