import Waymark.Config.Token

/-!
# Waymark.Config.Token.Lexer

Cutting a configuration text into tokens.

* Blanks, tabs and line ends separate words.
* The braces and the semicolon are tokens of their own and also end a plain word.
* `#` at the start of a word begins a comment that runs to the end of the line.
* A word that starts with a quote runs to the next such quote that no backslash
  precedes. The quotes stay in its text, and what follows must be blank, a
  semicolon or the end of the input.

Design points:

* `Lexeme.read` decides what stands at the head of a text and leaves the rest;
  `Lexer` adds offsets to it;
* `tokenStream` is the whole input as tokens with a mark for how it ends, so
  that later stages are functions on data and need no reading position.
-/

namespace Waymark.Config

/-! ### Character classes -/

/-- The characters that separate words. -/
def isBlank (c : Char) : Bool := c = ' ' || c = '\t' || c = '\n' || c = '\r'

/-- The characters that open and close a quoted word. -/
def isQuote (c : Char) : Bool := c = '"' || c = '\''

/-- The characters that end a line, and a comment with it. -/
def isLineEnd (c : Char) : Bool := c = '\n' || c = '\r'

/-- The kind of the tokens that consist of one fixed character. -/
def punctuation? : Char → Option TokenKind
  | '{' => some .openBrace
  | '}' => some .closeBrace
  | ';' => some .semicolon
  | _ => none

/-- The characters that may stand inside a plain word. -/
def isPlain (c : Char) : Bool := !isBlank c && (punctuation? c).isNone

/-- The characters that may follow a quoted word. -/
def delimitsQuoted (c : Char) : Bool := isBlank c || c = ';'

/-! ### Lexemes -/

/-- What stands after an opening quote: the text up to and with the closing
quote, and the rest. `escaped` says whether a backslash stands just before. -/
def closeQuote (quote : Char) : (escaped : Bool) → List Char → Option (List Char × List Char)
  | _, [] => none
  | escaped, c :: cs =>
    if c = quote ∧ escaped = false then some ([c], cs)
    else (closeQuote quote (c = '\\') cs).map fun (body, rest) => (c :: body, rest)

theorem closeQuote_append {quote : Char} {escaped : Bool} {cs body rest : List Char}
    (h : closeQuote quote escaped cs = some (body, rest)) : body ++ rest = cs := by
  induction cs generalizing escaped body with
  | nil => simp [closeQuote] at h
  | cons c cs ih =>
    unfold closeQuote at h
    split at h
    · simp only [Option.some.injEq, Prod.mk.injEq] at h
      obtain ⟨rfl, rfl⟩ := h
      rfl
    · rw [Option.map_eq_some_iff] at h
      obtain ⟨⟨b, r⟩, hb, heq⟩ := h
      simp only [Prod.mk.injEq] at heq
      obtain ⟨rfl, rfl⟩ := heq
      simp [ih hb]

/-- What stands at the head of a text. -/
structure Lexeme where
  /-- The kind of token. -/
  kind : TokenKind
  /-- The characters of the token. -/
  text : List Char
  /-- The characters after it. -/
  rest : List Char

/-- Read the lexeme at the head of a text that does not start with a blank. -/
def Lexeme.read : List Char → Lexeme
  | [] => ⟨.endOfInput, [], []⟩
  | c :: cs =>
    match punctuation? c with
    | some kind => ⟨kind, [c], cs⟩
    | none =>
      if c = '#' then
        ⟨.comment, c :: cs.takeWhile (!isLineEnd ·), cs.dropWhile (!isLineEnd ·)⟩
      else if isQuote c then
        match closeQuote c false cs with
        | none => ⟨.invalid, c :: cs, []⟩
        | some (body, rest) =>
          ⟨if rest.head?.all delimitsQuoted then .word else .invalid, c :: body, rest⟩
      else ⟨.word, c :: cs.takeWhile isPlain, cs.dropWhile isPlain⟩

/-- A lexeme and what follows it make up the text. -/
theorem Lexeme.text_append_rest (cs : List Char) :
    (Lexeme.read cs).text ++ (Lexeme.read cs).rest = cs := by
  cases cs with
  | nil => rfl
  | cons c cs =>
    simp only [Lexeme.read]
    split
    · rfl
    · split
      · simp
      · split
        · split
          · simp
          · next h => simpa using closeQuote_append h
        · simp

/-- Only the end of the input has no text. -/
theorem Lexeme.text_ne_nil {cs : List Char} (h : cs ≠ []) : (Lexeme.read cs).text ≠ [] := by
  cases cs with
  | nil => exact absurd rfl h
  | cons c cs => simp only [Lexeme.read]; grind

/-- Why a lexeme of kind `invalid` is one: nothing follows a quoted word that is
not closed, and a character that should not be there follows the others. -/
def Lexeme.fault (span : Span) : (rest : List Char) → LexError
  | [] => .unterminatedQuote span
  | c :: _ => .quoteNotDelimited c ⟨span.stop, span.stop + c.utf8Size⟩

/-! ### One token at a time -/

/-- The first token of a text whose first character has the offset given, and
what follows it. -/
def scan (offset : Nat) (cs : List Char) : Token × List Char :=
  let lexeme := Lexeme.read (cs.dropWhile isBlank)
  let start := offset + byteLength (cs.takeWhile isBlank)
  (⟨lexeme.kind, String.ofList lexeme.text, ⟨start, start + byteLength lexeme.text⟩⟩,
    lexeme.rest)

/-- Every token but the end of the input takes up some of the text. -/
theorem length_scan_lt {offset : Nat} {cs : List Char}
    (h : (scan offset cs).1.kind ≠ .endOfInput) : (scan offset cs).2.length < cs.length := by
  have hne : cs.dropWhile isBlank ≠ [] := fun hnil => h (by simp [scan, hnil, Lexeme.read])
  have h1 := congrArg List.length (Lexeme.text_append_rest (cs.dropWhile isBlank))
  have h2 := List.length_pos_iff.2 (Lexeme.text_ne_nil hne)
  have h3 := (List.dropWhile_suffix (l := cs) isBlank).length_le
  rw [List.length_append] at h1
  simp only [scan]
  omega

/-- A reading position in a source. -/
structure Lexer where
  /-- The characters not read yet. -/
  rest : List Char
  /-- The number of bytes read so far. -/
  offset : Nat := 0
  /-- Why the last faulty token was one. -/
  fault? : Option LexError := none

namespace Lexer

/-- The position at the start of a source. -/
def ofSource (source : String) : Lexer := { rest := source.toList }

/-- Read the next token. At the end of the input this gives the same empty token
again and again; after a faulty token reading goes on behind it. -/
def next (lexer : Lexer) : Token × Lexer :=
  let (token, rest) := scan lexer.offset lexer.rest
  let fault? :=
    if token.kind = .invalid then some (Lexeme.fault token.span rest) else lexer.fault?
  (token, ⟨rest, token.span.stop, fault?⟩)

/-- The first `count` tokens, each with the position after it. -/
def take (lexer : Lexer) : (count : Nat) → List (Token × Lexer)
  | 0 => []
  | count + 1 => lexer.next :: lexer.next.2.take count

end Lexer

/-! ### The whole source -/

/-- How a source ends. -/
inductive Ending where
  /-- At the offset given, with every character read. -/
  | finished (offset : Nat)
  /-- With a text that is no token. -/
  | faulty (error : LexError)
  deriving DecidableEq, Repr

/-- The tokens of a text whose first character has the offset given, up to the
end or the first fault. -/
def tokensFrom (offset : Nat) (cs : List Char) : List Token × Ending :=
  let token := (scan offset cs).1
  let rest := (scan offset cs).2
  if _h : token.kind = .endOfInput then ([], .finished token.span.start)
  else if token.kind = .invalid then ([], .faulty (Lexeme.fault token.span rest))
  else
    let after := tokensFrom token.span.stop rest
    (token :: after.1, after.2)
termination_by cs.length
decreasing_by exact length_scan_lt _h

/-- The tokens of a source up to its end or the first fault. -/
def tokenStream (source : String) : List Token × Ending :=
  tokensFrom 0 source.toList

/-- The tokens of a source, comments included, or its first fault. -/
def tokenize (source : String) : Except LexError (List Token) :=
  match tokenStream source with
  | (tokens, .finished _) => .ok tokens
  | (_, .faulty error) => .error error

end Waymark.Config
