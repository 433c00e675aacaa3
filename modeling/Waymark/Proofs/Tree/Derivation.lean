import Waymark.Config.Tree.Reader
import Waymark.Proofs.Outcome
import Waymark.Proofs.Token.Grammar
import Waymark.Proofs.Tree.Structure

/-!
# Waymark.Proofs.Tree.Derivation

The grammar of statement trees, and that `parseTree` accepts exactly what it derives.

`Derives tokens statements` is the grammar, spans included: a directive is a phrase of
words and a semicolon, a block is a phrase of words and what its body derives in braces.
The reader keeps a stack of open blocks instead of recursing, so what it has read is
compared with the grammar through `Draft.Reads`: the tokens so far are those of the open
blocks from the outermost one, then those of the complete statements of the innermost,
then the words that are pending.

* `Draft.Reads.push` is the step: it says what each kind of token does to the three parts;
* `Derives.foldlM_push` is the converse: from any draft without pending words, the tokens
  of some statements are accepted and add those statements;
* `parseTree_eq_ok_iff` puts both together.
-/

namespace Waymark.Config

/-! ### Tokens without comments -/

/-- The tokens that are no comments. -/
def significant (tokens : List Token) : List Token := tokens.filter (·.kind ≠ .comment)

theorem significant_append (tokens more : List Token) :
    significant (tokens ++ more) = significant tokens ++ significant more := by
  rw [significant, List.filter_append]
  rfl

/-- What a token of a text is: a word, a comment, or a mark with its own spelling. -/
inductive Token.WellSpelled (t : Token) : Prop where
  /-- A word. -/
  | word : t.kind = .word → IsWord t.text.toList → t.WellSpelled
  /-- A comment. -/
  | comment : t.kind = .comment → t.WellSpelled
  /-- An opening brace. -/
  | openBrace : t.kind = .openBrace → t.text = "\x7b" → t.WellSpelled
  /-- A closing brace. -/
  | closeBrace : t.kind = .closeBrace → t.text = "\x7d" → t.WellSpelled
  /-- A semicolon. -/
  | semicolon : t.kind = .semicolon → t.text = ";" → t.WellSpelled

theorem IsLexeme.wellSpelled {kind : TokenKind} {text rest : List Char}
    (h : IsLexeme kind text rest) (span : Span) :
    Token.WellSpelled ⟨kind, String.ofList text, span⟩ := by
  cases h with
  | mark hc =>
    obtain ⟨rfl, rfl⟩ | ⟨rfl, rfl⟩ | ⟨rfl, rfl⟩ := punctuation?_eq_some hc
    · exact .openBrace rfl rfl
    · exact .closeBrace rfl rfl
    · exact .semicolon rfl rfl
  | comment _ _ => exact .comment rfl
  | plain hword _ => exact .word rfl (by rw [String.toList_ofList]; exact Or.inl hword)
  | quoted hword _ => exact .word rfl (by rw [String.toList_ofList]; exact Or.inr hword)

theorem Cut.wellSpelled {offset : Nat} {cs : List Char} {tokens : List Token}
    (h : Cut offset cs tokens) : ∀ t ∈ tokens, t.WellSpelled := by
  induction h with
  | blank _ => simp
  | token _ hlexeme _ ih =>
    intro t ht
    rcases List.mem_cons.mp ht with rfl | ht
    · exact hlexeme.wellSpelled _
    · exact ih t ht

/-! ### The grammar -/

/-- Words of one statement. -/
def IsPhrase (tokens : List Token) : Prop := tokens ≠ [] ∧ ∀ t ∈ tokens, t.kind = .word

/-- The range from the first of some tokens to a last one. -/
def coverTo (tokens : List Token) (last : Span) : Span :=
  tokens.foldr (fun token span => token.span.cover span) last

/-- The tokens of some statements. -/
inductive Derives : List Token → List Statement → Prop where
  /-- No statement has no tokens. -/
  | nil : Derives [] []
  /-- A phrase, a semicolon, and the tokens of the statements after it. -/
  | directive {words mark rest statements} : IsPhrase words → mark.kind = .semicolon →
      Derives rest statements →
      Derives (words ++ mark :: rest)
        (.directive (words.map (·.text)) (coverTo words mark.span) :: statements)
  /-- A phrase, the tokens of a body in braces, and those of the statements after it. -/
  | block {words opener inner body closer rest statements} : IsPhrase words →
      opener.kind = .openBrace → Derives inner body → closer.kind = .closeBrace →
      Derives rest statements →
      Derives (words ++ opener :: (inner ++ closer :: rest))
        (.block (words.map (·.text)) ((words.map (·.text)).headD "") body
          ((coverTo words opener.span).cover closer.span) :: statements)

theorem Derives.append {tokens more : List Token} {statements others : List Statement}
    (h : Derives tokens statements) (hmore : Derives more others) :
    Derives (tokens ++ more) (statements ++ others) := by
  induction h with
  | nil => exact hmore
  | directive hwords hmark _ ih =>
    rw [List.append_assoc, List.cons_append, List.cons_append]
    exact .directive hwords hmark ih
  | block hwords hopener hinner hcloser _ _ ih =>
    rw [List.append_assoc, List.cons_append, List.append_assoc, List.cons_append,
      List.cons_append]
    exact .block hwords hopener hinner hcloser ih

/-- The kind of the last of some tokens, or the one given when there is none. -/
def lastKind (previous : TokenKind) (tokens : List Token) : TokenKind :=
  (tokens.getLast?.map (·.kind)).getD previous

@[simp] theorem lastKind_nil (previous : TokenKind) : lastKind previous [] = previous := rfl

@[simp] theorem lastKind_cons (previous : TokenKind) (t : Token) (tokens : List Token) :
    lastKind previous (t :: tokens) = lastKind t.kind tokens := by
  unfold lastKind
  rw [List.getLast?_cons]
  cases tokens.getLast? <;> rfl

@[simp] theorem lastKind_append (previous : TokenKind) (tokens more : List Token) :
    lastKind previous (tokens ++ more) = lastKind (lastKind previous tokens) more := by
  induction tokens generalizing previous with
  | nil => rfl
  | cons t tokens ih => rw [List.cons_append, lastKind_cons, lastKind_cons, ih]

/-- A phrase ends in a word. -/
theorem IsPhrase.lastKind_eq {words : List Token} (h : IsPhrase words) (previous : TokenKind) :
    lastKind previous words = .word := by
  obtain ⟨hne, hkind⟩ := h
  unfold lastKind
  rw [List.getLast?_eq_some_getLast hne]
  exact hkind _ (List.getLast_mem hne)

/-- Statements end in a semicolon or a closing brace. -/
theorem Derives.lastKind_eq {tokens : List Token} {statements : List Statement}
    (h : Derives tokens statements) (previous : TokenKind) :
    (tokens = [] ∧ statements = []) ∨ lastKind previous tokens = .semicolon ∨
      lastKind previous tokens = .closeBrace := by
  induction h generalizing previous with
  | nil => exact Or.inl ⟨rfl, rfl⟩
  | @directive words mark rest statements hwords hmark _ ih =>
    right
    rw [lastKind_append, lastKind_cons, hmark]
    rcases ih .semicolon with ⟨rfl, -⟩ | hlast
    · exact Or.inl rfl
    · exact hlast
  | @block words opener inner body closer rest statements _ _ _ hcloser _ _ ih =>
    right
    rw [lastKind_append, lastKind_cons, lastKind_append, lastKind_cons, hcloser]
    rcases ih .closeBrace with ⟨rfl, -⟩ | hlast
    · exact Or.inr rfl
    · exact hlast

/-! ### The steps of the reader -/

namespace Draft

theorem expect_of_mem {d : Draft} {token : Token} {allowed : List TokenKind}
    (h : d.previous ∈ allowed) : d.expect token allowed = .ok () := by
  simp [expect, h]

theorem expect_of_not_mem {d : Draft} {token : Token} {allowed : List TokenKind}
    (h : d.previous ∉ allowed) :
    d.expect token allowed = .error (.unexpectedToken d.previous token.kind token.span) := by
  simp [expect, h]

theorem push_word {d : Draft} {token : Token} (h : token.kind = .word) :
    d.push token = .ok { d with previous := .word, pending := d.pending ++ [token] } := by
  simp [push, h]

theorem push_comment {d : Draft} {token : Token} (h : token.kind = .comment) :
    d.push token = .ok d := by
  simp [push, h]

theorem push_semicolon {d : Draft} {token : Token} (h : token.kind = .semicolon) :
    d.push token = d.expect token [.word] >>= fun _ => .ok ⟨.semicolon, [],
      d.statements ++ [.directive d.words (d.spanTo token.span)], d.opened⟩ := by
  unfold push
  rw [h]
  rfl

theorem push_openBrace {d : Draft} {token : Token} (h : token.kind = .openBrace) :
    d.push token = d.expect token [.word] >>= fun _ =>
      .ok ⟨.openBrace, [], [], ⟨d.words, d.spanTo token.span, d.statements⟩ :: d.opened⟩ := by
  unfold push
  rw [h]
  rfl

theorem push_closeBrace {d : Draft} {token : Token} (h : token.kind = .closeBrace) :
    d.push token = d.expect token [.semicolon, .closeBrace, .openBrace] >>= fun _ =>
      match d.opened with
      | [] => .error (.unbalancedClose token.span)
      | opener :: opened => .ok ⟨.closeBrace, [], opener.before ++ [.block opener.words
          (opener.words.headD "") d.statements (opener.opening.cover token.span)], opened⟩ := by
  unfold push
  rw [h]
  cases d.opened <;> rfl

/-- A semicolon ends the pending words. -/
theorem push_semicolon_iff {d d' : Draft} {token : Token} (h : token.kind = .semicolon) :
    d.push token = .ok d' ↔ d.previous = .word ∧
      d' = ⟨.semicolon, [],
        d.statements ++ [.directive d.words (d.spanTo token.span)], d.opened⟩ := by
  rw [push_semicolon h]
  by_cases hp : d.previous = .word
  · rw [expect_of_mem (by simp [hp])]
    simp [hp, eq_comm]
  · rw [expect_of_not_mem (by simp [hp])]
    simp [hp]

/-- An opening brace sets the pending words and the statements before them aside. -/
theorem push_openBrace_iff {d d' : Draft} {token : Token} (h : token.kind = .openBrace) :
    d.push token = .ok d' ↔ d.previous = .word ∧
      d' = ⟨.openBrace, [], [], ⟨d.words, d.spanTo token.span, d.statements⟩ :: d.opened⟩ := by
  rw [push_openBrace h]
  by_cases hp : d.previous = .word
  · rw [expect_of_mem (by simp [hp])]
    simp [hp, eq_comm]
  · rw [expect_of_not_mem (by simp [hp])]
    simp [hp]

/-- A closing brace completes the innermost open block. -/
theorem push_closeBrace_iff {d d' : Draft} {token : Token} (h : token.kind = .closeBrace) :
    d.push token = .ok d' ↔
      (d.previous = .semicolon ∨ d.previous = .closeBrace ∨ d.previous = .openBrace) ∧
      ∃ opener opened, d.opened = opener :: opened ∧
        d' = ⟨.closeBrace, [], opener.before ++ [.block opener.words (opener.words.headD "")
          d.statements (opener.opening.cover token.span)], opened⟩ := by
  rw [push_closeBrace h]
  by_cases hp : d.previous ∈ [TokenKind.semicolon, .closeBrace, .openBrace]
  · rw [expect_of_mem hp]
    simp only [List.mem_cons, List.not_mem_nil, or_false] at hp
    cases hopened : d.opened with
    | nil => simp
    | cons opener opened =>
      constructor
      · intro heq
        exact ⟨hp, opener, opened, rfl, (Except.ok.inj heq).symm⟩
      · rintro ⟨-, opener', opened', heq, rfl⟩
        obtain ⟨rfl, rfl⟩ := List.cons.inj heq
        rfl
  · rw [expect_of_not_mem hp]
    simp only [List.mem_cons, List.not_mem_nil, or_false] at hp
    simp [hp]

theorem finish_eq_ok_iff {d : Draft} {offset : Nat} {tree : Block} :
    d.finish offset = .ok tree ↔ (d.previous = .semicolon ∨ d.previous = .closeBrace) ∧
      d.opened = [] ∧ tree = ⟨mainContext, d.statements⟩ := by
  unfold finish
  by_cases hp : d.previous ∈ [TokenKind.semicolon, .closeBrace]
  · rw [expect_of_mem hp]
    simp only [List.mem_cons, List.not_mem_nil, or_false] at hp
    cases hopened : d.opened with
    | nil =>
      constructor
      · intro heq
        exact ⟨hp, rfl, (Except.ok.inj heq).symm⟩
      · rintro ⟨-, -, rfl⟩
        rfl
    | cons opener opened => simp
  · rw [expect_of_not_mem hp]
    simp only [List.mem_cons, List.not_mem_nil, or_false] at hp
    simp [hp]

end Draft

/-! ### What a draft has read -/

/-- The tokens of the open blocks, outermost first: for each of them the statements
before it, its words and its brace. -/
inductive Opens : List Token → List OpenBlock → Prop where
  /-- No block is open. -/
  | nil : Opens [] []
  /-- One more block is open inside the others. -/
  | cons {outer before words opener statements opened} : Opens outer opened →
      Derives before statements → IsPhrase words → opener.kind = .openBrace →
      Opens (outer ++ (before ++ (words ++ [opener])))
        (⟨words.map (·.text), coverTo words opener.span, statements⟩ :: opened)

theorem Opens.lastKind_eq {tokens : List Token} {opened : List OpenBlock} (h : Opens tokens opened)
    (previous : TokenKind) :
    (tokens = [] ∧ opened = []) ∨ lastKind previous tokens = .openBrace := by
  cases h with
  | nil => exact Or.inl ⟨rfl, rfl⟩
  | cons _ _ _ hopener =>
    right
    rw [lastKind_append, lastKind_append, lastKind_append, lastKind_cons, lastKind_nil, hopener]

namespace Draft

/-- The draft has read the tokens `outer` of the open blocks and after them the tokens
`done` of the complete statements of the innermost one, and then its pending words. -/
structure Reads (d : Draft) (outer done : List Token) : Prop where
  /-- The open blocks begin with the outer tokens. -/
  opens : Opens outer d.opened
  /-- The complete statements have the tokens after them. -/
  derives : Derives done d.statements
  /-- What is pending are words. -/
  pending : ∀ t ∈ d.pending, t.kind = .word
  /-- The last kind is remembered. -/
  previous : d.previous = lastKind .start (outer ++ (done ++ d.pending))

/-- Some tokens have been read into a draft. -/
def HasRead (d : Draft) (tokens : List Token) : Prop :=
  ∃ outer done, d.Reads outer done ∧ tokens = outer ++ (done ++ d.pending)

theorem hasRead_start : start.HasRead [] :=
  ⟨[], [], ⟨.nil, .nil, by simp [start], rfl⟩, rfl⟩

/-- After a word, what is pending is a phrase. -/
theorem Reads.isPhrase {d : Draft} {outer done : List Token} (h : d.Reads outer done)
    (hword : d.previous = .word) : IsPhrase d.pending := by
  refine ⟨fun hnil => ?_, h.pending⟩
  have hlast := h.previous
  rw [hword, hnil, List.append_nil, lastKind_append] at hlast
  rcases h.derives.lastKind_eq (lastKind .start outer) with ⟨rfl, -⟩ | hd | hd
  · rw [lastKind_nil] at hlast
    rcases h.opens.lastKind_eq .start with ⟨rfl, -⟩ | ho
    · simp at hlast
    · simp [ho] at hlast
  · simp [hd] at hlast
  · simp [hd] at hlast

/-- After anything but a word, nothing is pending. -/
theorem Reads.pending_eq_nil {d : Draft} {outer done : List Token} (h : d.Reads outer done)
    (hword : d.previous ≠ .word) : d.pending = [] := by
  by_contra hne
  refine hword ?_
  rw [h.previous, lastKind_append, lastKind_append]
  exact IsPhrase.lastKind_eq ⟨hne, h.pending⟩ _

/-- **One token.** Whatever a draft has read, it has read one token more after it accepts
one, unless that is a comment. -/
theorem HasRead.push {d d' : Draft} {tokens : List Token} {token : Token}
    (h : d.HasRead tokens) (hspelled : token.WellSpelled) (hpush : d.push token = .ok d') :
    d'.HasRead (tokens ++ significant [token]) := by
  obtain ⟨outer, done, hreads, rfl⟩ := h
  cases hspelled with
  | word hkind _ =>
    rw [push_word hkind] at hpush
    obtain rfl := Except.ok.inj hpush
    refine ⟨outer, done, ⟨hreads.opens, hreads.derives, ?_, ?_⟩, ?_⟩
    · intro t ht
      rcases List.mem_append.mp ht with ht | ht
      · exact hreads.pending t ht
      · obtain rfl := List.mem_singleton.mp ht
        exact hkind
    · simp [hkind]
    · simp [significant, hkind]
  | comment hkind =>
    rw [push_comment hkind] at hpush
    obtain rfl := Except.ok.inj hpush
    exact ⟨outer, done, hreads, by simp [significant, hkind]⟩
  | semicolon hkind _ =>
    obtain ⟨hprevious, rfl⟩ := (push_semicolon_iff hkind).mp hpush
    -- what was pending is one more statement of the innermost block
    have hdirective := Derives.directive (hreads.isPhrase hprevious) hkind .nil
    refine ⟨outer, done ++ (d.pending ++ [token]),
      ⟨hreads.opens, hreads.derives.append hdirective, by simp, ?_⟩, ?_⟩
    · simp [hkind]
    · simp [significant, hkind]
  | openBrace hkind _ =>
    obtain ⟨hprevious, rfl⟩ := (push_openBrace_iff hkind).mp hpush
    -- all that was read belongs to the open blocks, and the new one is empty
    refine ⟨outer ++ (done ++ (d.pending ++ [token])), [],
      ⟨.cons hreads.opens hreads.derives (hreads.isPhrase hprevious) hkind, .nil, by simp, ?_⟩, ?_⟩
    · simp [hkind]
    · simp [significant, hkind]
  | closeBrace hkind _ =>
    obtain ⟨hprevious, opener, opened, hopened, rfl⟩ := (push_closeBrace_iff hkind).mp hpush
    have hpending : d.pending = [] := by
      refine hreads.pending_eq_nil ?_
      rcases hprevious with h | h | h <;> simp [h]
    -- the innermost block joins the statements that stood before it
    have hopens := hreads.opens
    rw [hopened] at hopens
    cases hopens with
    | @cons outer before words brace statements opened houter hbefore hwords hbrace =>
      have hblock := Derives.block hwords hbrace hreads.derives hkind .nil
      refine ⟨outer, before ++ (words ++ brace :: (done ++ [token])),
        ⟨houter, hbefore.append hblock, by simp, ?_⟩, ?_⟩
      · simp [hkind]
      · simp [significant, hkind, hpending]

/-- **A run of tokens**, by induction over it. -/
theorem HasRead.foldlM_push {d d' : Draft} {tokens more : List Token} (h : d.HasRead tokens)
    (hspelled : ∀ t ∈ more, t.WellSpelled) (hfold : more.foldlM Draft.push d = .ok d') :
    d'.HasRead (tokens ++ significant more) := by
  induction more generalizing d tokens with
  | nil =>
    obtain rfl := Except.ok.inj hfold
    rw [significant, List.filter_nil, List.append_nil]
    exact h
  | cons t more ih =>
    rw [List.foldlM_cons] at hfold
    cases hpush : d.push t with
    | error e => simp [hpush] at hfold
    | ok next =>
      rw [hpush] at hfold
      have hnext := h.push (hspelled t (by simp)) hpush
      have hrest := ih hnext (fun u hu => hspelled u (by simp [hu])) hfold
      rw [List.append_assoc] at hrest
      rw [← significant_append] at hrest
      exact hrest

end Draft

/-! ### What the grammar derives is accepted -/

/-- Comments make no difference. -/
theorem foldlM_push_significant (d : Draft) (tokens : List Token) :
    (significant tokens).foldlM Draft.push d = tokens.foldlM Draft.push d := by
  induction tokens generalizing d with
  | nil => rfl
  | cons t tokens ih =>
    by_cases hcomment : t.kind = .comment
    · have hskip : significant (t :: tokens) = significant tokens := by
        simp [significant, hcomment]
      rw [hskip, ih, List.foldlM_cons, Draft.push_comment hcomment]
      rfl
    · have hkeep : significant (t :: tokens) = t :: significant tokens := by
        simp [significant, hcomment]
      rw [hkeep, List.foldlM_cons, List.foldlM_cons]
      exact bind_congr fun next => ih next

/-- Words are put aside. -/
theorem foldlM_push_words {words : List Token} (h : ∀ t ∈ words, t.kind = .word) (d : Draft) :
    words.foldlM Draft.push d =
      .ok { d with previous := lastKind d.previous words, pending := d.pending ++ words } := by
  induction words generalizing d with
  | nil => simp
  | cons t words ih =>
    have ht : t.kind = .word := h t (by simp)
    rw [List.foldlM_cons, Draft.push_word ht]
    have hrest := ih (fun u hu => h u (by simp [hu]))
      { d with previous := .word, pending := d.pending ++ [t] }
    rw [List.append_assoc] at hrest
    rw [lastKind_cons, ht]
    exact hrest

/-- **The tokens of some statements add those statements**, by induction over their
derivation: wherever a statement may begin, its tokens are accepted. -/
theorem Derives.foldlM_push {tokens : List Token} {statements : List Statement}
    (h : Derives tokens statements) (previous : TokenKind) (before : List Statement)
    (opened : List OpenBlock) :
    tokens.foldlM Draft.push ⟨previous, [], before, opened⟩ =
      .ok ⟨lastKind previous tokens, [], before ++ statements, opened⟩ := by
  induction h generalizing previous before opened with
  | nil => simp
  | @directive words mark rest statements hwords hmark _ ih =>
    have hpush := (Draft.push_semicolon_iff (d := ⟨.word, words, before, opened⟩) hmark).mpr
      ⟨rfl, rfl⟩
    rw [List.foldlM_append, foldlM_push_words hwords.2, hwords.lastKind_eq, lastKind_append,
      lastKind_cons, hmark]
    show (mark :: rest).foldlM Draft.push ⟨.word, words, before, opened⟩ = _
    rw [List.foldlM_cons, hpush]
    show rest.foldlM Draft.push ⟨.semicolon, [], before ++ [_], opened⟩ = _
    rw [ih, List.append_assoc]
    rfl
  | @block words opener inner body closer rest statements hwords hopener hinner hcloser _ ihinner
      ih =>
    have hopen := (Draft.push_openBrace_iff (d := ⟨.word, words, before, opened⟩) hopener).mpr
      ⟨rfl, rfl⟩
    -- before the closing brace stands the opening one or the end of a statement
    have hlast : lastKind .openBrace inner = .semicolon ∨
        lastKind .openBrace inner = .closeBrace ∨ lastKind .openBrace inner = .openBrace := by
      rcases hinner.lastKind_eq .openBrace with ⟨rfl, -⟩ | h | h
      · exact Or.inr (Or.inr rfl)
      · exact Or.inl h
      · exact Or.inr (Or.inl h)
    have hclose := (Draft.push_closeBrace_iff (d := ⟨lastKind .openBrace inner, [], body,
      ⟨words.map (·.text), coverTo words opener.span, before⟩ :: opened⟩) hcloser).mpr
      ⟨hlast, _, _, rfl, rfl⟩
    rw [List.foldlM_append, foldlM_push_words hwords.2, hwords.lastKind_eq, lastKind_append,
      lastKind_cons, lastKind_append, lastKind_cons, hcloser]
    show (opener :: (inner ++ closer :: rest)).foldlM Draft.push ⟨.word, words, before, opened⟩ = _
    rw [List.foldlM_cons, hopen]
    show (inner ++ closer :: rest).foldlM Draft.push ⟨.openBrace, [], [],
      ⟨words.map (·.text), coverTo words opener.span, before⟩ :: opened⟩ = _
    rw [List.foldlM_append, ihinner]
    show (closer :: rest).foldlM Draft.push ⟨lastKind .openBrace inner, [], body,
      ⟨words.map (·.text), coverTo words opener.span, before⟩ :: opened⟩ = _
    rw [List.foldlM_cons, hclose]
    show rest.foldlM Draft.push ⟨.closeBrace, [], before ++ [_], opened⟩ = _
    rw [ih, List.append_assoc]
    rfl

/-! ### The reader -/

/-- The reader in terms of `tokenize`: the tokens are pushed one by one, and the draft is
a tree when nothing is open at the end. -/
theorem parseTree_of_tokenize {source : String} {tokens : List Token}
    (h : tokenize source = .ok tokens) :
    parseTree source = (tokens.foldlM Draft.push Draft.start).bind
      (·.finish (byteLength source.toList)) := by
  unfold parseTree
  rw [tokenize_eq_ok_iff_tokenStream.mp h]
  rfl

/-- Only a source that can be cut into tokens has a tree. -/
theorem exists_tokenize_of_parseTree {source : String} {tree : Block}
    (h : parseTree source = .ok tree) : ∃ tokens, tokenize source = .ok tokens := by
  unfold parseTree at h
  unfold tokenize
  rcases hstream : tokenStream source with ⟨tokens, offset | error⟩
  · exact ⟨tokens, rfl⟩
  · rw [hstream] at h
    cases hfold : tokens.foldlM Draft.push Draft.start with
    | error e => simp [hfold] at h
    | ok draft => simp [hfold] at h

/-- **The reader accepts its grammar**: the tree of a source is a non-empty derivation of
the source's tokens, comments left out, and every such derivation is its tree. -/
theorem parseTree_eq_ok_iff {source : String} {tree : Block} :
    parseTree source = .ok tree ↔
      ∃ tokens, tokenize source = .ok tokens ∧
        Derives (significant tokens) tree.statements ∧ tree.statements ≠ [] ∧
        tree.context = mainContext := by
  constructor
  · intro h
    obtain ⟨tokens, htokens⟩ := exists_tokenize_of_parseTree h
    rw [parseTree_of_tokenize htokens] at h
    have hspelled := (cut_of_tokenize htokens).wellSpelled
    cases hfold : tokens.foldlM Draft.push Draft.start with
    | error e => simp [hfold, Except.bind] at h
    | ok draft =>
      rw [hfold] at h
      obtain ⟨hprevious, hopened, rfl⟩ := Draft.finish_eq_ok_iff.mp h
      obtain ⟨outer, done, hreads, hread⟩ := Draft.hasRead_start.foldlM_push hspelled hfold
      have hpending : draft.pending = [] := by
        refine hreads.pending_eq_nil ?_
        rcases hprevious with h | h <;> simp [h]
      have hopens := hreads.opens
      rw [hopened] at hopens
      cases hopens
      rw [hpending, List.nil_append, List.nil_append, List.append_nil] at hread
      refine ⟨tokens, htokens, hread ▸ hreads.derives, ?_, rfl⟩
      -- without statements nothing was read, and there the input may not end
      rintro (hnil : draft.statements = [])
      have hderives := hreads.derives
      rw [hnil] at hderives
      cases hderives
      have hstart := hreads.previous
      rw [hpending] at hstart
      simp [hstart] at hprevious
  · rintro ⟨tokens, htokens, hderives, hne, hcontext⟩
    have hfold := hderives.foldlM_push .start [] []
    rw [foldlM_push_significant] at hfold
    rw [parseTree_of_tokenize htokens, Draft.start, hfold]
    refine Draft.finish_eq_ok_iff.mpr ⟨?_, rfl, ?_⟩
    · rcases hderives.lastKind_eq .start with ⟨-, hnil⟩ | hlast
      · exact absurd hnil hne
      · exact hlast
    · rw [List.nil_append, ← hcontext]

end Waymark.Config
