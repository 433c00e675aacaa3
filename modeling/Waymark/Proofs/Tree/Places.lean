import Waymark.Proofs.Rules.Places
import Waymark.Proofs.Tree.Flatten

/-!
# Waymark.Proofs.Tree.Places

Where the tokens of a text stand decides nothing about its tree but the places of its
statements.

The reader is followed token by token: `Draft.push_bare` says that adding a token without its
place to a draft without places is adding the token and forgetting the places after it, also
when the token is refused. So what a text is read as, up to places, is what its tokens without
places and comments are read as (`parseTree_bare`).
-/

namespace Waymark.Config

open Statement (bareAll bareAll_eq_map)

/-! ### Without places -/

/-- A token without its place. -/
def Token.bare (t : Token) : Token := { t with span := ⟨0, 0⟩ }

/-- Tokens that read alike differ in nothing but their places. -/
theorem map_bare_of_map_item {tokens others : List Token}
    (h : tokens.map Token.item = others.map Token.item) :
    tokens.map Token.bare = others.map Token.bare := by
  have hbare : ∀ t : Token, t.bare = (fun item => ⟨item.1, item.2, ⟨0, 0⟩⟩) t.item := fun _ => rfl
  have hmap : ∀ ts : List Token,
      ts.map Token.bare = (ts.map Token.item).map fun item => ⟨item.1, item.2, ⟨0, 0⟩⟩ := by
    intro ts
    rw [List.map_map]
    exact List.map_congr_left fun t _ => hbare t
  rw [hmap, hmap, h]

/-- A fault of the tokens without its place. -/
def LexError.bare : LexError → LexError
  | unterminatedQuote _ => unterminatedQuote ⟨0, 0⟩
  | quoteNotDelimited found _ => quoteNotDelimited found ⟨0, 0⟩

/-- A syntax error without its place. -/
def SyntaxError.bare : SyntaxError → SyntaxError
  | lexical error => lexical error.bare
  | unexpectedToken previous found _ => unexpectedToken previous found ⟨0, 0⟩
  | unbalancedClose _ => unbalancedClose ⟨0, 0⟩
  | unclosedBlock _ => unclosedBlock ⟨0, 0⟩

/-- An open block without its place and those of the statements before it. -/
def OpenBlock.bare (b : OpenBlock) : OpenBlock := ⟨b.words, ⟨0, 0⟩, bareAll b.before⟩

namespace Draft

/-- A draft without places. -/
def bare (d : Draft) : Draft :=
  ⟨d.previous, d.pending.map Token.bare, bareAll d.statements, d.opened.map OpenBlock.bare⟩

variable {d : Draft} {token : Token}

@[simp] theorem previous_bare (d : Draft) : d.bare.previous = d.previous := rfl

@[simp] theorem opened_bare (d : Draft) : d.bare.opened = d.opened.map OpenBlock.bare := rfl

@[simp] theorem words_bare (d : Draft) : d.bare.words = d.words := by
  rw [words, words, bare, List.map_map]
  rfl

@[simp] theorem spanTo_bare (d : Draft) : d.bare.spanTo ⟨0, 0⟩ = ⟨0, 0⟩ := by
  show (d.pending.map Token.bare).foldr _ _ = _
  induction d.pending with
  | nil => rfl
  | cons t rest ih =>
    rw [List.map_cons, List.foldr_cons, ih]
    rfl

/-! ### The reader -/

theorem expect_bare (d : Draft) (token : Token) (allowed : List TokenKind) :
    d.bare.expect token.bare allowed = (d.expect token allowed).mapError (·.bare) := by
  unfold expect
  rw [previous_bare]
  split <;> rfl

/-- **One token without its place**, by the kind of the token. -/
theorem push_bare (d : Draft) (token : Token) :
    d.bare.push token.bare = ((d.push token).mapError (·.bare)).map bare := by
  have hexpect := d.expect_bare token
  have hkind' : token.bare.kind = token.kind := rfl
  cases hkind : token.kind with
  | word =>
    rw [push_word hkind, push_word (hkind'.trans hkind)]
    show Except.ok _ = Except.ok (bare _)
    simp [bare]
  | semicolon =>
    rw [push_semicolon hkind, push_semicolon (hkind'.trans hkind), hexpect]
    cases d.expect token [.word] with
    | error e => rfl
    | ok _ =>
      show Except.ok _ = Except.ok (bare _)
      rw [words_bare, Token.bare, spanTo_bare]
      simp [bare, Statement.bare, bareAll_eq_map]
  | openBrace =>
    rw [push_openBrace hkind, push_openBrace (hkind'.trans hkind), hexpect]
    cases d.expect token [.word] with
    | error e => rfl
    | ok _ =>
      show Except.ok _ = Except.ok (bare _)
      rw [words_bare, Token.bare, spanTo_bare]
      simp [bare, OpenBlock.bare]
  | closeBrace =>
    rw [push_closeBrace hkind, push_closeBrace (hkind'.trans hkind), hexpect]
    cases d.expect token [.semicolon, .closeBrace, .openBrace] with
    | error e => rfl
    | ok _ =>
      rw [opened_bare]
      cases d.opened with
      | nil => rfl
      | cons opener opened =>
        show Except.ok _ = Except.ok (bare _)
        simp [bare, OpenBlock.bare, Statement.bare, bareAll_eq_map, Token.bare, Span.cover]
  | comment =>
    rw [push_comment hkind, push_comment (hkind'.trans hkind)]
    rfl
  | start | endOfInput | invalid =>
    unfold push
    rw [hkind', hkind]
    rfl

/-- A run of tokens without their places. -/
theorem foldlM_push_bare (d : Draft) (tokens : List Token) :
    (tokens.map Token.bare).foldlM push d.bare =
      ((tokens.foldlM push d).mapError (·.bare)).map bare := by
  induction tokens generalizing d with
  | nil => rfl
  | cons t tokens ih =>
    rw [List.map_cons, List.foldlM_cons, List.foldlM_cons, push_bare]
    cases d.push t with
    | error e => rfl
    | ok next => exact ih next

theorem finish_bare (d : Draft) (offset : Nat) :
    d.bare.finish 0 = ((d.finish offset).mapError (·.bare)).map Block.bare := by
  have hexpect := d.expect_bare ⟨.endOfInput, "", ⟨offset, offset⟩⟩ [.semicolon, .closeBrace]
  unfold finish
  show d.bare.expect (Token.bare ⟨.endOfInput, "", ⟨offset, offset⟩⟩) _ >>= _ = _
  rw [hexpect]
  cases d.expect ⟨.endOfInput, "", ⟨offset, offset⟩⟩ [.semicolon, .closeBrace] with
  | error e => rfl
  | ok _ =>
    rw [opened_bare]
    cases d.opened <;> rfl

end Draft

/-- **What a text is read as, up to places, is up to its tokens without places and comments.** -/
theorem parseTree_bare {source : String} {tokens : List Token} (h : tokenize source = .ok tokens) :
    ((parseTree source).mapError (·.bare)).map Block.bare =
      ((significant tokens).map Token.bare).foldlM Draft.push Draft.start >>= (·.finish 0) := by
  have hfold := Draft.start.foldlM_push_bare (significant tokens)
  rw [foldlM_push_significant] at hfold
  have hstart : Draft.start.bare = Draft.start := rfl
  rw [hstart] at hfold
  rw [parseTree_of_tokenize h, hfold]
  cases tokens.foldlM Draft.push Draft.start with
  | error e => rfl
  | ok draft => exact (draft.finish_bare (byteLength source.toList)).symm

end Waymark.Config
