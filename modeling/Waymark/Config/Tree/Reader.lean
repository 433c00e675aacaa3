import Waymark.Config.Token.Lexer
import Waymark.Config.Tree

/-!
# Waymark.Config.Tree.Reader

From tokens to the statement tree.

Each token is checked against the kind of the one before it, comments left out:
a semicolon and an opening brace follow a word, a closing brace follows a
semicolon or a brace, and the input ends after a semicolon or a closing brace.

Design points:

* `Draft` is the tree of what has been read so far, with the blocks that are
  still open; `Draft.push` adds one token, so a parse is a fold;
* a fault of the tokens counts only where the fold reaches it, hence the first
  error in the source is the one reported.
-/

namespace Waymark.Config

/-- Why a text has no statement tree. -/
inductive SyntaxError where
  /-- It cannot be cut into tokens. -/
  | lexical (error : LexError)
  /-- A token cannot follow the one before it. -/
  | unexpectedToken (previous found : TokenKind) (span : Span)
  /-- A closing brace closes nothing. -/
  | unbalancedClose (span : Span)
  /-- The input ends inside a block; the span goes from the block's first word
  to its brace. -/
  | unclosedBlock (opening : Span)
  deriving DecidableEq, Repr

namespace SyntaxError

/-- The place to point at. -/
def span : SyntaxError → Span
  | lexical error => error.span
  | unexpectedToken _ _ span => span
  | unbalancedClose span => span
  | unclosedBlock opening => opening

/-- The error in words. -/
def message : SyntaxError → String
  | lexical error => s!"Lexer error: {error.message}"
  | unexpectedToken previous found span =>
      s!"Unexpected {found.describe} after {previous.describe} at position {span.start}"
  | unbalancedClose span => s!"Unbalanced '\x7d' at position {span.start}"
  | unclosedBlock opening => s!"Block opened at position {opening.start} is never closed"

end SyntaxError

/-! ### Drafts -/

/-- A block that waits for its closing brace. -/
structure OpenBlock where
  /-- The words before its brace. -/
  words : List String
  /-- From its first word to its brace. -/
  opening : Span
  /-- The statements before it in the block around it. -/
  before : List Statement

/-- What has been read of a source. -/
structure Draft where
  /-- The kind of the last token that is no comment. -/
  previous : TokenKind
  /-- The words of the statement that has begun. -/
  pending : List Token
  /-- The complete statements of the innermost open block. -/
  statements : List Statement
  /-- The open blocks, innermost first. -/
  opened : List OpenBlock

namespace Draft

/-- Nothing read yet. -/
def start : Draft := ⟨.start, [], [], []⟩

/-- The words of the statement that has begun. -/
def words (d : Draft) : List String := d.pending.map (·.text)

/-- The span of the statement that has begun, when its last token is at `last`. -/
def spanTo (d : Draft) (last : Span) : Span :=
  d.pending.foldr (fun token span => token.span.cover span) last

/-- Refuse a token unless the one before it is of one of the kinds given. -/
def expect (d : Draft) (token : Token) (allowed : List TokenKind) : Except SyntaxError Unit :=
  if allowed.contains d.previous then .ok ()
  else .error (.unexpectedToken d.previous token.kind token.span)

/-- Add one token. -/
def push (d : Draft) (token : Token) : Except SyntaxError Draft :=
  match token.kind with
  | .word => .ok { d with previous := .word, pending := d.pending ++ [token] }
  | .semicolon => do
    d.expect token [.word]
    let statement := Statement.directive d.words (d.spanTo token.span)
    return { d with
      previous := .semicolon, pending := [], statements := d.statements ++ [statement] }
  | .openBrace => do
    d.expect token [.word]
    return ⟨.openBrace, [], [], ⟨d.words, d.spanTo token.span, d.statements⟩ :: d.opened⟩
  | .closeBrace => do
    d.expect token [.semicolon, .closeBrace, .openBrace]
    match d.opened with
    | [] => throw (.unbalancedClose token.span)
    | opener :: opened =>
      let statement := Statement.block opener.words (opener.words.headD "") d.statements
        (opener.opening.cover token.span)
      return ⟨.closeBrace, [], opener.before ++ [statement], opened⟩
  | _ => .ok d

/-- The tree of a source that ends here. -/
def finish (d : Draft) (offset : Nat) : Except SyntaxError Block := do
  d.expect ⟨.endOfInput, "", ⟨offset, offset⟩⟩ [.semicolon, .closeBrace]
  match d.opened with
  | opener :: _ => throw (.unclosedBlock opener.opening)
  | [] => return ⟨mainContext, d.statements⟩

end Draft

/-- The statement tree of a source, whatever its statements mean. -/
def parseTree (source : String) : Except SyntaxError Block := do
  let (tokens, ending) := tokenStream source
  let draft ← tokens.foldlM Draft.push Draft.start
  match ending with
  | .finished offset => draft.finish offset
  | .faulty error => throw (.lexical error)

end Waymark.Config
