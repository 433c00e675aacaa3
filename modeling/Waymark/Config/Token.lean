import Waymark.Span
import Waymark.Text.Quoted

/-!
# Waymark.Config.Token

The tokens of a configuration file and the faults that keep a text from having
any.
-/

namespace Waymark.Config

/-- The kinds of token, with the three marks that no text has: the start of the
input, its end, and a faulty token. -/
inductive TokenKind where
  /-- What stands before the first token. -/
  | start
  /-- A plain or a quoted word. -/
  | word
  /-- The brace that opens a block. -/
  | openBrace
  /-- The brace that closes a block. -/
  | closeBrace
  /-- The semicolon that ends a directive. -/
  | semicolon
  /-- A `#` and the rest of its line. -/
  | comment
  /-- What stands after the last token. -/
  | endOfInput
  /-- A quoted word that is not closed, or not followed by a delimiter. -/
  | invalid
  deriving DecidableEq, Repr, Inhabited

/-- The name of a kind of token in messages. -/
def TokenKind.describe : TokenKind → String
  | .start => "start of input"
  | .word => "word"
  | .openBrace => "'\x7b'"
  | .closeBrace => "'\x7d'"
  | .semicolon => "';'"
  | .comment => "comment"
  | .endOfInput => "end of input"
  | .invalid => "invalid token"

/-- A token with its text and its place in the source. -/
structure Token where
  /-- What kind of token it is. -/
  kind : TokenKind
  /-- The text as written, quotes included. -/
  text : String
  /-- Where the text stands. -/
  span : Span
  deriving DecidableEq, Repr, Inhabited

/-- Why a text cannot be cut into tokens. -/
inductive LexError where
  /-- A quoted word runs to the end of the input. -/
  | unterminatedQuote (span : Span)
  /-- A closing quote is followed by a character that does not delimit words;
  the span is that character's. -/
  | quoteNotDelimited (found : Char) (span : Span)
  deriving DecidableEq, Repr

namespace LexError

/-- The place of the fault. -/
def span : LexError → Span
  | unterminatedQuote span => span
  | quoteNotDelimited _ span => span

/-- The fault in words. -/
def message : LexError → String
  | unterminatedQuote span =>
      s!"Unterminated quoted string starting at position {span.start}"
  | quoteNotDelimited found span =>
      s!"Quoted string must be followed by whitespace or ';', found " ++
        s!"{Text.quoteChar found} at position {span.start}"

end LexError

end Waymark.Config
