import Waymark.Proofs.Token.Extension
import Waymark.Proofs.Tree.RoundTrip

/-!
# Waymark.Proofs.Tree.Viable

Syntax errors stand at the earliest possible place.

A text is viable when something can be written after it that makes it a configuration text. The
reader never waits: after whatever it has accepted, a line end, a directive and closing braces for
the open blocks complete the tree (`viable_of_draft`). So an error at the end of the input means
only that the text stops too soon, with an open quote too, since that can be closed.

Every other error is at a token that is refused or at a fault that no later character mends, both
of which are found again in every extension of the text up to the end of the error's span. What
stands before the span is viable again.
-/

namespace Waymark.Config

/-! ### How a source is rejected -/

/-- The ways in which a source has no tree: a token is refused after the tokens before it have
been added, or all have been added and the tree cannot end there, or a fault follows them. -/
inductive Rejects (source : String) : SyntaxError → Prop where
  /-- A token is refused. -/
  | token {done token more ending draft error} :
      tokenStream source = (done ++ token :: more, ending) →
      done.foldlM Draft.push Draft.start = .ok draft → draft.push token = .error error →
      Rejects source error
  /-- The input ends too soon. -/
  | ending {tokens offset draft error} : tokenStream source = (tokens, .finished offset) →
      tokens.foldlM Draft.push Draft.start = .ok draft → draft.finish offset = .error error →
      Rejects source error
  /-- What follows the tokens is none. -/
  | fault {tokens error draft} : tokenStream source = (tokens, .faulty error) →
      tokens.foldlM Draft.push Draft.start = .ok draft → Rejects source (.lexical error)

theorem parseTree_eq_error_iff {source : String} {error : SyntaxError} :
    parseTree source = .error error ↔ Rejects source error := by
  constructor
  · intro h
    unfold parseTree at h
    rcases hstream : tokenStream source with ⟨tokens, ending⟩
    rw [hstream] at h
    dsimp only at h
    cases hfold : tokens.foldlM Draft.push Draft.start with
    | error other =>
      rw [hfold] at h
      obtain rfl := Except.error.inj h
      obtain ⟨done, token, more, draft, rfl, hdone, hpush⟩ := Outcome.foldlM_eq_error hfold
      exact .token hstream hdone hpush
    | ok draft =>
      rw [hfold] at h
      cases ending with
      | finished offset => exact .ending hstream hfold h
      | faulty fault =>
        obtain rfl := Except.error.inj h
        exact .fault hstream hfold
  · intro h
    unfold parseTree
    cases h with
    | token hstream hdone hpush => simp [hstream, hdone, hpush]
    | ending hstream hfold hfinish => simp [hstream, hfold, hfinish]
    | fault hstream hfold => simp [hstream, hfold]

/-! ### Errors at the end of the input -/

/-- Whether an error says no more than that the input stops too soon: in a quoted word, in a
block, or where no statement ends. -/
def SyntaxError.atEnd : SyntaxError → Bool
  | lexical (.unterminatedQuote _) => true
  | unclosedBlock _ => true
  | unexpectedToken _ found _ => found = .endOfInput
  | _ => false

namespace Draft

variable {d : Draft} {token : Token} {error : SyntaxError}

theorem expect_eq_error {allowed : List TokenKind} {other : SyntaxError}
    (h : d.expect token allowed = .error other) :
    other = .unexpectedToken d.previous token.kind token.span := by
  unfold expect at h
  split at h
  · cases h
  · exact (Except.error.inj h).symm

/-- A token that is refused is a mark, and the error is about that token. -/
theorem push_eq_error (h : d.push token = .error error) :
    token.kind ∈ [TokenKind.semicolon, .openBrace, .closeBrace] ∧ error.span = token.span ∧
      error.atEnd = false := by
  -- the previous token does not allow this one
  have hrefused : ∀ {allowed other}, d.expect token allowed = .error other →
      token.kind ≠ .endOfInput → other.span = token.span ∧ other.atEnd = false := by
    intro allowed other hexpect hkind
    obtain rfl := expect_eq_error hexpect
    exact ⟨rfl, by simpa [SyntaxError.atEnd] using hkind⟩
  cases hkind : token.kind with
  | word => simp [push_word hkind] at h
  | comment => simp [push_comment hkind] at h
  | semicolon =>
    rw [push_semicolon hkind, Outcome.bind_eq_error_iff] at h
    rcases h with hexpect | ⟨_, -, hnext⟩
    · exact ⟨by simp, hrefused hexpect (by simp [hkind])⟩
    · simp at hnext
  | openBrace =>
    rw [push_openBrace hkind, Outcome.bind_eq_error_iff] at h
    rcases h with hexpect | ⟨_, -, hnext⟩
    · exact ⟨by simp, hrefused hexpect (by simp [hkind])⟩
    · simp at hnext
  | closeBrace =>
    rw [push_closeBrace hkind, Outcome.bind_eq_error_iff] at h
    rcases h with hexpect | ⟨_, -, hnext⟩
    · exact ⟨by simp, hrefused hexpect (by simp [hkind])⟩
    · cases hopened : d.opened with
      | cons opener opened => simp [hopened] at hnext
      | nil =>
        rw [hopened] at hnext
        obtain rfl := Except.error.inj hnext
        exact ⟨by simp, rfl, rfl⟩
  | start | endOfInput | invalid => simp [push, hkind] at h

/-- The input cannot end where no statement does, nor inside a block. -/
theorem finish_eq_error_cases {offset : Nat} (h : d.finish offset = .error error) :
    error = .unexpectedToken d.previous .endOfInput ⟨offset, offset⟩ ∨
      ∃ opener opened, d.opened = opener :: opened ∧ error = .unclosedBlock opener.opening := by
  rw [finish, Outcome.bind_eq_error_iff] at h
  rcases h with hexpect | ⟨_, -, hnext⟩
  · exact Or.inl (expect_eq_error hexpect)
  · cases hopened : d.opened with
    | nil => simp [hopened] at hnext
    | cons opener opened =>
      rw [hopened] at hnext
      exact Or.inr ⟨opener, opened, rfl, (Except.error.inj hnext).symm⟩

/-- When the tree cannot end, the error is about the end. -/
theorem finish_eq_error {offset : Nat} (h : d.finish offset = .error error) :
    error.atEnd = true := by
  rcases finish_eq_error_cases h with rfl | ⟨opener, opened, -, rfl⟩
  · rfl
  · rfl

end Draft

/-! ### Completing a text -/

/-- A text is viable when something can follow it that makes it a configuration text. -/
def Viable (text : String) : Prop := ∃ suffix tree, parseTree (text ++ suffix) = .ok tree

theorem Viable.of_append {text more : String} (h : Viable (text ++ more)) : Viable text := by
  obtain ⟨suffix, tree, h⟩ := h
  exact ⟨more ++ suffix, tree, by rwa [← String.append_assoc]⟩

/-- What completes a text with so many open blocks: a line end, a directive and as many closing
braces. -/
def closing (depth : Nat) : List Char := '\n' :: 'x' :: ';' :: List.replicate depth '}'

/-- The tokens of what completes a text. -/
def closingItems (depth : Nat) : List (TokenKind × String) :=
  (.word, "x") :: (.semicolon, ";") :: List.replicate depth (.closeBrace, "\x7d")

theorem isWord_singleton {c : Char} (hplain : isPlain c = true) (hhash : c ≠ '#')
    (hquote : isQuote c = false) : IsWord [c] := by
  refine Or.inl ⟨by simp, fun d hd => ?_, List.forall_mem_singleton.mpr hplain⟩
  obtain rfl : c = d := by simpa using hd
  exact ⟨hhash, hquote⟩

theorem lexes_closing (depth : Nat) : Lexes (closing depth) (closingItems depth) := by
  have hbraces : Lexes (List.replicate depth '}')
      (List.replicate depth (.closeBrace, "\x7d")) := by
    induction depth with
    | zero => exact lexes_nil
    | succ depth ih => exact ih.cons_mark rfl
  have hmark := hbraces.cons_mark (c := ';') rfl
  have hword : IsWord ['x'] := isWord_singleton rfl (by decide) rfl
  exact (Lexes.lexeme (hword.isLexeme (delimitsWords_cons rfl _)) hmark).cons_blank rfl

/-- After a statement, closing braces for all open blocks complete the tree. -/
theorem exists_finish_of_closeBraces {closers : List Token}
    (hkind : ∀ t ∈ closers, t.kind = .closeBrace) {d : Draft}
    (hprevious : d.previous = .semicolon ∨ d.previous = .closeBrace)
    (hlength : closers.length = d.opened.length) (offset : Nat) :
    ∃ tree, closers.foldlM Draft.push d >>= (·.finish offset) = .ok tree := by
  induction closers generalizing d with
  | nil =>
    have hopened : d.opened = [] := List.length_eq_zero_iff.mp hlength.symm
    exact ⟨_, Draft.finish_eq_ok_iff.mpr ⟨hprevious, hopened, rfl⟩⟩
  | cons t closers ih =>
    obtain ⟨opener, opened, hopened⟩ : ∃ opener opened, d.opened = opener :: opened :=
      List.exists_cons_of_length_eq_add_one hlength.symm
    have hpush := (Draft.push_closeBrace_iff (d := d) (hkind t (by simp))).mpr
      ⟨hprevious.imp_right Or.inl, opener, opened, hopened, rfl⟩
    rw [List.foldlM_cons, hpush]
    refine ih (fun u hu => hkind u (by simp [hu])) (Or.inr rfl) ?_
    rw [hopened] at hlength
    exact Nat.succ.inj hlength

theorem exists_finish_of_closing {d : Draft} {tokens : List Token}
    (hitems : tokens.map Token.item = closingItems d.opened.length) (offset : Nat) :
    ∃ tree, tokens.foldlM Draft.push d >>= (·.finish offset) = .ok tree := by
  obtain ⟨word, rest, rfl, hword, hrest⟩ := List.map_eq_cons_iff.mp hitems
  obtain ⟨mark, closers, rfl, hmark, hclosers⟩ := List.map_eq_cons_iff.mp hrest
  have hkind : ∀ t ∈ closers, t.kind = .closeBrace := by
    intro t ht
    have hitem : t.item ∈ List.replicate d.opened.length (TokenKind.closeBrace, _) :=
      hclosers ▸ List.mem_map_of_mem ht
    exact congrArg Prod.fst (List.eq_of_mem_replicate hitem)
  have hlength : closers.length = d.opened.length := by
    simpa using congrArg List.length hclosers
  -- a word is accepted anywhere, and after it a semicolon
  have hpush := (Draft.push_semicolon_iff (d := { d with
    previous := .word, pending := d.pending ++ [word] }) (congrArg Prod.fst hmark)).mpr ⟨rfl, rfl⟩
  rw [List.foldlM_cons, Draft.push_word (congrArg Prod.fst hword), Outcome.ok_bind,
    List.foldlM_cons, hpush]
  exact exists_finish_of_closeBraces hkind (d := ⟨.semicolon, [], _, d.opened⟩) (Or.inl rfl)
    hlength offset

/-- **Whatever has been accepted can be completed**, also after more blanks. -/
theorem viable_of_draft {before gap left : List Char} {tokens : List Token} {d : Draft}
    (hcut : CutBefore 0 before tokens left) (hgap : ∀ c ∈ gap, isBlank c = true)
    (hleft : Replaces gap left) (hfold : tokens.foldlM Draft.push Draft.start = .ok d) :
    Viable (String.ofList (before ++ gap)) := by
  have hright : CutBefore 0 before tokens (gap ++ closing d.opened.length) :=
    hcut.replace (hleft.append_line_end _)
  obtain ⟨others, hothers, hitems⟩ :=
    (lexes_closing d.opened.length).prepend hgap (0 + byteLength before)
  have hsource : (String.ofList (before ++ gap) ++ String.ofList (closing d.opened.length)).toList =
      before ++ (gap ++ closing d.opened.length) := by
    simp
  have htokens := tokenize_of_cut (hsource ▸ hright.finish hothers)
  obtain ⟨tree, htree⟩ := exists_finish_of_closing hitems (byteLength _)
  refine ⟨_, tree, (parseTree_of_tokenize htokens).trans ?_⟩
  rw [List.foldlM_append, hfold]
  exact htree

theorem viable_of_finished {source : String} {tokens : List Token} {offset : Nat} {d : Draft}
    (hstream : tokenStream source = (tokens, .finished offset))
    (hfold : tokens.foldlM Draft.push Draft.start = .ok d) : Viable source := by
  rw [← List.append_nil tokens] at hstream
  obtain ⟨before, gap, hsource, hcut, hgap⟩ := exists_cutBefore hstream
  obtain ⟨hblank, -⟩ := tokensFrom_eq_finished_iff.mp hgap
  cases hblank with
  | blank hblank =>
    rw [← String.ofList_toList (s := source), hsource]
    exact viable_of_draft hcut hblank (fun c hc => Or.inr hc) hfold

/-- After a word too, whether or not the text goes on with it. -/
theorem viable_of_word {before gap word left : List Char} {tokens : List Token} {d : Draft}
    (hcut : CutBefore 0 before tokens left) (hgap : ∀ c ∈ gap, isBlank c = true)
    (hword : IsWord word) (hleft : Replaces (gap ++ word) left)
    (hfold : tokens.foldlM Draft.push Draft.start = .ok d) :
    Viable (String.ofList (before ++ (gap ++ word))) := by
  have hlexeme : IsLexeme .word word [] := hword.isLexeme (by simp [DelimitsWords])
  have hright : CutBefore 0 before tokens (gap ++ word ++ []) := by
    rw [List.append_nil]
    exact hcut.replace hleft
  obtain ⟨token, hkind, hall⟩ : ∃ token : Token, token.kind = .word ∧
      CutBefore 0 (before ++ (gap ++ word)) (tokens ++ [token]) [] :=
    ⟨_, rfl, hright.append (cutBefore_lexeme hgap hlexeme)⟩
  obtain ⟨next, hnext⟩ : ∃ next, (tokens ++ [token]).foldlM Draft.push Draft.start = .ok next := by
    rw [List.foldlM_append, hfold]
    exact ⟨_, foldlM_push_words (by simpa using hkind) d⟩
  rw [← List.append_nil (before ++ (gap ++ word))]
  exact viable_of_draft hall (by simp) (replaces_front [] []) hnext

/-! ### The earliest place -/

/-- A source fails at a range of bytes when it can be completed up to the start of the range and
cannot up to its end. -/
def FailsAt (source : String) (span : Span) : Prop :=
  ∃ before found after, source = before ++ found ++ after ∧
    span = ⟨byteLength before.toList, byteLength (before ++ found).toList⟩ ∧
    Viable before ∧ ¬Viable (before ++ found)

theorem tokenStream_ofList (cs : List Char) : tokenStream (String.ofList cs) = tokensFrom 0 cs := by
  rw [tokenStream, String.toList_ofList]

theorem failsAt_of_chars {source : String} {before found after : List Char} {span : Span}
    (hsource : source.toList = before ++ (found ++ after))
    (hspan : span = ⟨byteLength before, byteLength before + byteLength found⟩)
    (hviable : Viable (String.ofList before))
    (hrejects : ∀ more, ∃ error, Rejects (String.ofList (before ++ (found ++ more))) error) :
    FailsAt source span := by
  refine ⟨String.ofList before, String.ofList found, String.ofList after, ?_, ?_, hviable, ?_⟩
  · rw [← String.ofList_append, ← String.ofList_append, List.append_assoc, ← hsource,
      String.ofList_toList]
  · simpa using hspan
  · rintro ⟨suffix, tree, h⟩
    obtain ⟨error, herror⟩ := hrejects suffix.toList
    have htext : String.ofList before ++ String.ofList found ++ suffix =
        String.ofList (before ++ (found ++ suffix.toList)) := by
      rw [← List.append_assoc, String.ofList_append, String.ofList_append, String.ofList_toList]
    rw [htext, parseTree_eq_error_iff.mpr herror] at h
    cases h

/-- A source fails at the first token that is refused. -/
theorem failsAt_of_push {source : String} {done more : List Token} {token : Token}
    {ending : Ending} {draft : Draft} {error : SyntaxError}
    (hstream : tokenStream source = (done ++ token :: more, ending))
    (hdone : done.foldlM Draft.push Draft.start = .ok draft)
    (hpush : draft.push token = .error error) : FailsAt source token.span := by
  obtain ⟨before, left, hsource, hcut, hleft⟩ := exists_cutBefore hstream
  obtain ⟨gap, kind, text, rest, hgap, hlexeme, rfl, rfl, -⟩ := exists_isLexeme_of_tokensFrom hleft
  obtain ⟨hkind, -, -⟩ := Draft.push_eq_error hpush
  -- the token is a mark, so it is found again whatever follows it
  have hrejects : ∀ other, ∃ error,
      Rejects (String.ofList (before ++ gap ++ (text ++ other))) error := by
    intro other
    have hother : Replaces (text ++ other) (text ++ rest) := by
      obtain ⟨c, cs, rfl, -⟩ := hlexeme.head_not_blank
      exact replaces_cons c _ _
    have hagain := (hcut.replace (hother.append gap)).tokensFrom_eq
    rw [tokensFrom_of_isLexeme hgap (hlexeme.of_mark hkind other), ← tokenStream_ofList,
      ← List.append_assoc] at hagain
    exact ⟨error, .token hagain hdone hpush⟩
  rw [← List.append_assoc] at hsource
  exact failsAt_of_chars hsource (by simp)
    (viable_of_draft hcut hgap (replaces_front gap _) hdone) hrejects

section Faults

variable {source : String} {before gap more : List Char} {tokens : List Token} {d : Draft}

/-- A source that ends within a quoted word is viable, for the word can be closed. -/
theorem viable_of_unterminated {quote : Char}
    (hsource : source.toList = before ++ (gap ++ quote :: more))
    (hcut : CutBefore 0 before tokens (gap ++ quote :: more))
    (hgap : ∀ c ∈ gap, isBlank c = true) (hquote : isQuote quote = true)
    (hopen : ∀ body rest, more = body ++ quote :: rest → ¬IsQuotedBody quote body)
    (hfold : tokens.foldlM Draft.push Draft.start = .ok d) : Viable source := by
  have hword : IsWord (quote :: (more ++ [' '] ++ [quote])) :=
    Or.inr (isQuotedWord_of_unterminated hquote hopen)
  have hviable := viable_of_word hcut hgap hword ((replaces_cons quote _ _).append gap) hfold
  have htext : source ++ String.ofList [' ', quote] =
      String.ofList (before ++ (gap ++ quote :: (more ++ [' '] ++ [quote]))) := by
    rw [← String.ofList_toList (s := source), hsource, ← String.ofList_append]
    simp
  rw [← htext] at hviable
  exact hviable.of_append

/-- A source fails at a character that should not follow a quoted word. -/
theorem failsAt_of_undelimited {word : List Char} {c : Char}
    (hsource : source.toList = before ++ (gap ++ (word ++ c :: more)))
    (hcut : CutBefore 0 before tokens (gap ++ (word ++ c :: more)))
    (hgap : ∀ c ∈ gap, isBlank c = true) (hword : IsQuotedWord word)
    (hc : delimitsQuoted c = false) (hfold : tokens.foldlM Draft.push Draft.start = .ok d) :
    FailsAt source ⟨byteLength (before ++ (gap ++ word)),
      byteLength (before ++ (gap ++ word)) + c.utf8Size⟩ := by
  rw [← List.append_assoc] at hcut
  have hviable := viable_of_word hcut hgap (Or.inr hword) (replaces_front _ _) hfold
  -- the same word is followed by the same character, whatever stands after that
  have hrejects : ∀ other, ∃ error,
      Rejects (String.ofList (before ++ (gap ++ word) ++ ([c] ++ other))) error := by
    intro other
    have hagain := (hcut.replace ((replaces_cons c other more).append (gap ++ word))).tokensFrom_eq
    rw [List.append_assoc gap, tokensFrom_of_isFault hgap (.undelimited hword hc),
      List.append_nil, ← tokenStream_ofList] at hagain
    rw [List.append_assoc, List.append_assoc]
    exact ⟨_, .fault hagain hfold⟩
  have hplace : source.toList = before ++ (gap ++ word) ++ ([c] ++ more) := by
    rw [hsource]
    simp
  exact failsAt_of_chars hplace rfl hviable hrejects

end Faults

/-- At a fault either the text is viable as it is, or it fails at the span of the fault. -/
theorem viable_or_failsAt_of_fault {source : String} {tokens : List Token} {error : LexError}
    {draft : Draft} (hstream : tokenStream source = (tokens, .faulty error))
    (hfold : tokens.foldlM Draft.push Draft.start = .ok draft) :
    if (SyntaxError.lexical error).atEnd then Viable source else FailsAt source error.span := by
  rw [← List.append_nil tokens] at hstream
  obtain ⟨before, left, hsource, hcut, hleft⟩ := exists_cutBefore hstream
  obtain ⟨gap, text, rest, hgap, hfault, rfl, rfl⟩ := exists_isFault_of_tokensFrom hleft
  cases hfault with
  | @unterminated quote more hquote hopen =>
    rw [List.append_nil] at hsource hcut
    exact viable_of_unterminated hsource hcut hgap hquote hopen hfold
  | undelimited hword hc =>
    have hfails := failsAt_of_undelimited hsource hcut hgap hword hc hfold
    simpa [SyntaxError.atEnd, Lexeme.fault, LexError.span, Nat.add_assoc] using hfails

/-- **Errors are found as early as they can be.** A source that is rejected because it ends too
soon can be completed. Any other source that is rejected can be completed up to where the error
starts, and whatever follows the place where it stops, no tree is read. -/
theorem viable_or_failsAt_of_parseTree {source : String} {error : SyntaxError}
    (h : parseTree source = .error error) :
    if error.atEnd then Viable source else FailsAt source error.span := by
  cases parseTree_eq_error_iff.mp h with
  | token hstream hdone hpush =>
    obtain ⟨-, hspan, hend⟩ := Draft.push_eq_error hpush
    rw [hend, hspan]
    exact failsAt_of_push hstream hdone hpush
  | @ending tokens offset draft error hstream hfold hfinish =>
    rw [if_pos (Draft.finish_eq_error hfinish)]
    exact viable_of_finished hstream hfold
  | fault hstream hfold => exact viable_or_failsAt_of_fault hstream hfold

/-- The closing brace of a text that no block has been opened in. -/
theorem failsAt_closing_brace :
    parseTree "a;\x7d" = .error (.unbalancedClose ⟨2, 3⟩) ∧ FailsAt "a;\x7d" ⟨2, 3⟩ := by
  have hword : IsWord ['a'] := isWord_singleton rfl (by decide) rfl
  have hnone : ∀ c ∈ ([] : List Char), isBlank c = true := by simp
  have hcut : Cut 0 "a;\x7d".toList [⟨.word, "a", ⟨0, 1⟩⟩, ⟨.semicolon, ";", ⟨1, 2⟩⟩,
      ⟨.closeBrace, "\x7d", ⟨2, 3⟩⟩] :=
    .token hnone (hword.isLexeme (delimitsWords_cons rfl ['}']))
      (.token hnone (.mark rfl) (.token hnone (.mark rfl) (.blank hnone)))
  have herror : parseTree "a;\x7d" = .error (.unbalancedClose ⟨2, 3⟩) := by
    rw [parseTree_of_tokenize (tokenize_of_cut hcut)]
    rfl
  exact ⟨herror, viable_or_failsAt_of_parseTree herror⟩

end Waymark.Config
