import Waymark.Proofs.Token.Extension

/-!
# Waymark.Proofs.Token.Fault

The sources that have no tokens, and why.

`IsFault` says what the text at a fault looks like, but not where in a source a fault can stand. A
quote is one inside a comment and in the middle of a plain word as well, so this is said through
the tokens of what stands before it (`FaultyAt`): either those tokens are complete and a word may
begin, or the last of them is the quoted word itself.

A source has tokens or one such place, never both (`tokenize_eq_error_iff`). From the source to the
place, the tokens before a fault are cut again by themselves, since the end of the input delimits
every lexeme. In the other direction the last of them needs a reason to stay what it is, and this
is `CutBefore.replace_of_last`.
-/

namespace Waymark.Config

/-! ### Open quotes -/

/-- Nothing closes a quote when every later one has a backslash just before it. -/
theorem closeQuote_eq_none_iff_escaped {quote : Char} {escaped : Bool} {cs : List Char} :
    closeQuote quote escaped cs = none ↔
      ∀ body rest, cs = body ++ quote :: rest → endsInBackslash escaped body = true := by
  induction cs generalizing escaped with
  | nil => simp [closeQuote]
  | cons c cs ih =>
    rw [closeQuote]
    by_cases hc : c = quote ∧ escaped = false
    · obtain ⟨rfl, rfl⟩ := hc
      rw [if_pos ⟨rfl, rfl⟩]
      constructor
      · intro h
        cases h
      · intro h
        have hfirst := h [] cs rfl
        simp [endsInBackslash] at hfirst
    · rw [if_neg hc, Option.map_eq_none_iff, ih]
      constructor
      · intro h body rest heq
        cases body with
        | nil =>
          obtain ⟨rfl, -⟩ := List.cons.inj heq
          simpa [endsInBackslash] using hc
        | cons d body =>
          obtain ⟨rfl, hcs⟩ := List.cons.inj heq
          rw [endsInBackslash_cons]
          exact h body rest hcs
      · intro h body rest heq
        rw [← endsInBackslash_cons escaped]
        exact h (c :: body) rest (by rw [heq, List.cons_append])

/-- The same for a quote that begins a word. -/
theorem not_isQuotedBody_iff_escaped {quote : Char} {more : List Char} :
    (∀ body rest, more = body ++ quote :: rest → ¬IsQuotedBody quote body) ↔
      ∀ body rest, more = body ++ quote :: rest → body.getLast? = some '\\' := by
  rw [← closeQuote_eq_none_iff, closeQuote_eq_none_iff_escaped]
  simp only [endsInBackslash_false_iff]

theorem delimitsQuoted_eq_false_iff {c : Char} :
    delimitsQuoted c = false ↔ c ∉ [' ', '\t', '\n', '\r', ';'] := by
  simp [delimitsQuoted, isBlank, and_assoc]

/-! ### The last token before a place -/

/-- A mark is a token of one fixed character. -/
def IsMark (kind : TokenKind) : Prop := kind ∈ [TokenKind.semicolon, .openBrace, .closeBrace]

/-- Only a mark can stand just before a quote that begins a word. -/
theorem IsLexeme.isMark {kind : TokenKind} {text rest : List Char} {quote : Char}
    (h : IsLexeme kind text (quote :: rest)) (hquote : isQuote quote = true) : IsMark kind := by
  have hcases : quote = '"' ∨ quote = '\'' := by simpa [isQuote] using hquote
  cases h with
  | mark hmark =>
    rcases punctuation?_eq_some hmark with ⟨-, rfl⟩ | ⟨-, rfl⟩ | ⟨-, rfl⟩ <;> simp [IsMark]
  | comment _ hrest =>
    have hend := hrest quote rfl
    rcases hcases with rfl | rfl <;> exact absurd hend (by decide)
  | plain _ hrest =>
    have hplain := hrest quote rfl
    rcases hcases with rfl | rfl <;> exact absurd hplain (by decide)
  | quoted _ hrest =>
    have hdelimits := hrest quote rfl
    rcases hcases with rfl | rfl <;> exact absurd hdelimits (by decide)

namespace CutBefore

variable {offset : Nat} {before left other : List Char} {tokens : List Token} {t : Token}

/-- Where tokens are cut, characters are. -/
theorem ne_nil (h : CutBefore offset before (t :: tokens) left) : before ≠ [] := by
  cases h with
  | token _ hlexeme _ =>
    obtain ⟨c, cs, rfl, -⟩ := hlexeme.head_not_blank
    simp

/-- The last token ends at the place, and is a lexeme with what stands there. -/
theorem last (h : CutBefore offset before (tokens ++ [t]) left) :
    IsLexeme t.kind t.text.toList left ∧ t.span.stop = offset + byteLength before := by
  generalize hall : tokens ++ [t] = all at h
  induction h generalizing tokens with
  | nil => simp at hall
  | @token offset gap kind text before rest left _ hlexeme hrest ih =>
    cases tokens with
    | nil =>
      obtain ⟨rfl, rfl⟩ := List.cons.inj hall
      cases hrest
      rw [List.nil_append] at hlexeme
      refine ⟨by rwa [String.toList_ofList], ?_⟩
      simp only [byteLength_append, byteLength]
      omega
    | cons first tokens =>
      obtain ⟨-, hmore⟩ := List.cons.inj hall
      obtain ⟨hlast, hstop⟩ := ih hmore
      refine ⟨hlast, ?_⟩
      simp only [byteLength_append]
      omega

/-- Anything may follow that the last token can have after it: the others do not see it. -/
theorem replace_of_last (h : CutBefore offset before tokens left)
    (hlast : ∀ t ∈ tokens.getLast?, IsLexeme t.kind t.text.toList other) :
    CutBefore offset before tokens other := by
  induction h with
  | nil => exact .nil
  | @token offset gap kind text before tokens left hgap hlexeme hrest ih =>
    cases tokens with
    | nil =>
      cases hrest
      have hown := hlast _ (by rw [List.getLast?_singleton]; rfl)
      rw [String.toList_ofList] at hown
      exact .token hgap hown .nil
    | cons u tokens =>
      obtain ⟨c, cs, rfl⟩ := List.exists_cons_of_ne_nil hrest.ne_nil
      rw [List.getLast?_cons_cons] at hlast
      exact .token hgap (hlexeme.replace (replaces_cons c _ _)) (ih hlast)

end CutBefore

/-- A source that is read to its end has a stretch that is cut into its tokens, and blanks. -/
theorem exists_cutBefore_of_tokenize {source : String} {tokens : List Token}
    (h : tokenize source = .ok tokens) :
    ∃ before gap, source.toList = before ++ gap ∧ CutBefore 0 before tokens gap ∧
      ∀ c ∈ gap, isBlank c = true := by
  have hstream := tokenize_eq_ok_iff_tokenStream.mp h
  rw [← List.append_nil tokens] at hstream
  obtain ⟨before, gap, hsource, hcut, hgap⟩ := exists_cutBefore hstream
  obtain ⟨hblank, -⟩ := tokensFrom_eq_finished_iff.mp hgap
  cases hblank with
  | blank hblank => exact ⟨before, gap, hsource, hcut, hblank⟩

theorem CutBefore.tokenize_eq {before gap left : List Char} {tokens : List Token}
    (h : CutBefore 0 before tokens (gap ++ left)) (hgap : ∀ c ∈ gap, isBlank c = true) :
    tokenize (String.ofList (before ++ gap)) = .ok tokens := by
  have hcut := (h.replace (replaces_front gap left)).finish (.blank hgap)
  rw [List.append_nil] at hcut
  exact tokenize_of_cut (by rwa [String.toList_ofList])

/-! ### Faults of a source -/

/-- Where a source has no tokens, and why. What stands before the place has some. -/
inductive FaultyAt (source : String) : LexError → Prop where
  /-- A word begins with a quote, and every later one has a backslash just before it. -/
  | unterminated {before quote more tokens} :
      source.toList = before.toList ++ quote :: more → isQuote quote = true →
      tokenize before = .ok tokens →
      (∀ t ∈ tokens.getLast?, t.span.stop = byteLength before.toList → IsMark t.kind) →
      (∀ body rest, more = body ++ quote :: rest → body.getLast? = some '\\') →
      FaultyAt source
        (.unterminatedQuote ⟨byteLength before.toList, byteLength source.toList⟩)
  /-- A quoted word ends there, and a character follows that does not delimit it. -/
  | undelimited {before c after tokens word} :
      source.toList = before.toList ++ c :: after →
      tokenize before = .ok (tokens ++ [word]) →
      word.kind = .word → IsQuotedWord word.text.toList →
      word.span.stop = byteLength before.toList → c ∉ [' ', '\t', '\n', '\r', ';'] →
      FaultyAt source (.quoteNotDelimited c
        ⟨byteLength before.toList, byteLength before.toList + c.utf8Size⟩)

section Faults

variable {source : String} {before gap : List Char} {tokens : List Token}

/-- At a quote that nothing closes a source is faulty. -/
theorem faultyAt_of_unterminated {quote : Char} {more : List Char}
    (hsource : source.toList = before ++ (gap ++ quote :: more))
    (hcut : CutBefore 0 before tokens (gap ++ quote :: more))
    (hgap : ∀ c ∈ gap, isBlank c = true) (hquote : isQuote quote = true)
    (hopen : ∀ body rest, more = body ++ quote :: rest → ¬IsQuotedBody quote body) :
    FaultyAt source
      (.unterminatedQuote ⟨byteLength (before ++ gap), byteLength source.toList⟩) := by
  have hplace : source.toList = (String.ofList (before ++ gap)).toList ++ quote :: more := by
    rw [String.toList_ofList, hsource, List.append_assoc]
  have hlast : ∀ t ∈ tokens.getLast?,
      t.span.stop = byteLength (String.ofList (before ++ gap)).toList → IsMark t.kind := by
    intro t ht hstop
    obtain ⟨front, rfl⟩ := List.getLast?_eq_some_iff.mp ht
    obtain ⟨hlexeme, hend⟩ := hcut.last
    rw [String.toList_ofList, byteLength_append, hend] at hstop
    -- the token ends where the quote stands, so there is no gap between them
    cases gap with
    | nil => exact hlexeme.isMark hquote
    | cons c gap =>
      have hpos := c.utf8Size_pos
      rw [byteLength] at hstop
      omega
  have hfaulty := FaultyAt.unterminated hplace hquote (hcut.tokenize_eq hgap) hlast
    (not_isQuotedBody_iff_escaped.mp hopen)
  rwa [String.toList_ofList] at hfaulty

/-- At a character that should not follow a quoted word a source is faulty. -/
theorem faultyAt_of_undelimited {word after : List Char} {c : Char}
    (hsource : source.toList = before ++ (gap ++ (word ++ c :: after)))
    (hcut : CutBefore 0 before tokens (gap ++ (word ++ c :: after)))
    (hgap : ∀ c ∈ gap, isBlank c = true) (hword : IsQuotedWord word)
    (hc : delimitsQuoted c = false) :
    FaultyAt source (.quoteNotDelimited c ⟨byteLength (before ++ (gap ++ word)),
      byteLength (before ++ (gap ++ word)) + c.utf8Size⟩) := by
  have hplace : source.toList = (String.ofList (before ++ (gap ++ word))).toList ++ c :: after := by
    rw [String.toList_ofList, hsource]
    simp
  rw [← List.append_assoc] at hcut
  have hfront : CutBefore 0 before tokens (gap ++ word ++ []) := by
    rw [List.append_nil]
    exact hcut.replace (replaces_front _ _)
  have hlexeme : IsLexeme .word word [] := .quoted hword (by simp)
  have hall := hfront.append (cutBefore_lexeme hgap hlexeme)
  have hnone : ∀ c ∈ ([] : List Char), isBlank c = true := by simp
  have htokens := @CutBefore.tokenize_eq (before ++ (gap ++ word)) [] [] _ hall hnone
  rw [List.append_nil] at htokens
  have hfaulty := FaultyAt.undelimited hplace htokens rfl
    (by rwa [String.toList_ofList]) ?_ (delimitsQuoted_eq_false_iff.mp hc)
  · rwa [String.toList_ofList] at hfaulty
  · rw [String.toList_ofList]
    simp [Nat.add_assoc]

/-- A source whose tokens end in a fault is faulty there. -/
theorem faultyAt_of_tokenStream {error : LexError}
    (h : tokenStream source = (tokens, .faulty error)) : FaultyAt source error := by
  rw [← List.append_nil tokens] at h
  obtain ⟨before, left, hsource, hcut, hleft⟩ := exists_cutBefore h
  obtain ⟨gap, text, rest, hgap, hfault, rfl, rfl⟩ := exists_isFault_of_tokensFrom hleft
  cases hfault with
  | @unterminated quote more hquote hopen =>
    rw [List.append_nil] at hsource hcut
    have hfaulty := faultyAt_of_unterminated hsource hcut hgap hquote hopen
    rw [hsource] at hfaulty
    simpa [Lexeme.fault, Nat.add_assoc] using hfaulty
  | undelimited hword hc =>
    have hfaulty := faultyAt_of_undelimited hsource hcut hgap hword hc
    simpa [Lexeme.fault, Nat.add_assoc] using hfaulty

end Faults

theorem tokenize_eq_error_of_tokenStream {source : String} {tokens : List Token}
    {error : LexError} (h : tokenStream source = (tokens, .faulty error)) :
    tokenize source = .error error := by
  rw [tokenize, h]

/-- Where a source is faulty, the lexer stops. -/
theorem FaultyAt.tokenize_eq {source : String} {error : LexError} (h : FaultyAt source error) :
    tokenize source = .error error := by
  cases h with
  | @unterminated before quote more tokens hsource hquote htokens hlast hescaped =>
    obtain ⟨front, gap, hbefore, hcut, hgap⟩ := exists_cutBefore_of_tokenize htokens
    have hfault : IsFault (quote :: more) [] :=
      .unterminated hquote (not_isQuotedBody_iff_escaped.mpr hescaped)
    have hright : CutBefore 0 front tokens (gap ++ (quote :: more ++ [])) := by
      cases gap with
      | cons c gap => exact hcut.replace (replaces_cons c _ _)
      | nil =>
        -- the last token ends at the quote, so it is a mark
        refine hcut.replace_of_last fun t ht => ?_
        obtain ⟨others, rfl⟩ := List.getLast?_eq_some_iff.mp ht
        obtain ⟨hlexeme, hstop⟩ := hcut.last
        rw [List.append_nil] at hbefore
        refine hlexeme.of_mark (hlast t ht ?_) _
        rw [hstop, hbefore, Nat.zero_add]
    have hstream := hright.tokensFrom_eq
    rw [tokensFrom_of_isFault hgap hfault, ← List.append_assoc, ← hbefore, List.append_nil,
      List.append_nil, ← hsource] at hstream
    rw [tokenize_eq_error_of_tokenStream hstream, hbefore, hsource, hbefore]
    simp [Lexeme.fault, Nat.add_assoc]
  | @undelimited before c after tokens word hsource htokens _ hquoted hstop hc =>
    have hstream := tokenize_eq_ok_iff_tokenStream.mp htokens
    obtain ⟨front, left, hbefore, hcut, hleft⟩ := exists_cutBefore hstream
    obtain ⟨gap, kind, text, rest, hgap, hlexeme, rfl, rfl, -⟩ :=
      exists_isLexeme_of_tokensFrom hleft
    -- the word ends where the character stands, so nothing is left between them
    obtain rfl : rest = [] := by
      rw [hbefore] at hstop
      simp only [byteLength_append] at hstop
      cases rest with
      | nil => rfl
      | cons d rest =>
        have hpos := d.utf8Size_pos
        rw [byteLength] at hstop
        omega
    rw [String.toList_ofList] at hquoted
    have hfault : IsFault text (c :: after) :=
      .undelimited hquoted (delimitsQuoted_eq_false_iff.mpr hc)
    have hright : CutBefore 0 front tokens (gap ++ (text ++ c :: after)) := by
      obtain ⟨d, cs, rfl, -⟩ := hlexeme.head_not_blank
      exact hcut.replace ((replaces_cons d _ _).append gap)
    have hagain := hright.tokensFrom_eq
    have hplace : front ++ (gap ++ (text ++ c :: after)) = source.toList := by
      rw [hsource, hbefore]
      simp
    rw [tokensFrom_of_isFault hgap hfault, hplace] at hagain
    rw [tokenize_eq_error_of_tokenStream hagain, hbefore]
    simp [Lexeme.fault, Nat.add_assoc]

/-- **The errors of the lexer are exact.** A source has no tokens exactly where a quoted word
begins after some tokens and nothing closes it, or where one ends and a character follows that
does not delimit it, and the error says which and where. What stands before that place has
tokens, so it is the first. -/
theorem tokenize_eq_error_iff (source : String) (error : LexError) :
    tokenize source = .error error ↔ FaultyAt source error := by
  constructor
  · intro h
    rcases hstream : tokenStream source with ⟨tokens, stop | found⟩
    · rw [tokenize, hstream] at h
      cases h
    · rw [tokenize_eq_error_of_tokenStream hstream] at h
      obtain rfl := Except.error.inj h
      exact faultyAt_of_tokenStream hstream
  · exact FaultyAt.tokenize_eq

end Waymark.Config
