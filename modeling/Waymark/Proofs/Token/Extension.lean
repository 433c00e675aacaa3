import Waymark.Proofs.Token.Grammar

/-!
# Waymark.Proofs.Token.Extension

What becomes of the tokens of a text when another text stands after some of them.

A lexeme depends on what follows it through the next character only, and a line end delimits
every lexeme. So after the tokens `CutBefore` some place, whatever stood there may be replaced by
a text that starts with a line end or with the same character, and the tokens stay
(`CutBefore.replace`).

The texts that are no tokens have a grammar of their own, `IsFault`, and the lexer stops exactly
at them (`Lexeme.read_of_isFault`, `Lexeme.isFault_read`). A quoted word that nothing delimits is
a fault whatever comes later; an open quote is none once it is closed.
-/

namespace Waymark.Config

/-! ### What may follow a lexeme -/

/-- After any lexeme `other` may stand in the place of `rest`: it is empty, or it starts with a
line end or with the character with which `rest` starts. -/
def Replaces (other rest : List Char) : Prop := ∀ c ∈ other.head?, c = '\n' ∨ c ∈ rest.head?

theorem replaces_cons (c : Char) (other rest : List Char) : Replaces (c :: other) (c :: rest) :=
  fun _ hd => Or.inr hd

/-- What starts a text may stand in its place. -/
theorem replaces_front (front rest : List Char) : Replaces front (front ++ rest) := by
  intro c hc
  cases front with
  | nil => cases hc
  | cons d front => exact Or.inr hc

/-- A line end may be added, with anything after it. -/
theorem Replaces.append_line_end {other rest : List Char} (h : Replaces other rest)
    (more : List Char) : Replaces (other ++ '\n' :: more) rest := by
  cases other with
  | nil =>
    intro c hc
    obtain rfl : '\n' = c := by simpa using hc
    exact Or.inl rfl
  | cons d other => exact h

theorem Replaces.append {other rest : List Char} (h : Replaces other rest) (front : List Char) :
    Replaces (front ++ other) (front ++ rest) := by
  cases front with
  | nil => exact h
  | cons c front => exact fun d hd => Or.inr hd

theorem IsLexeme.replace {kind : TokenKind} {text rest other : List Char}
    (h : IsLexeme kind text rest) (hother : Replaces other rest) : IsLexeme kind text other := by
  cases h with
  | mark hmark => exact .mark hmark
  | comment hline hrest =>
    refine .comment hline fun c hc => ?_
    rcases hother c hc with rfl | hc
    · decide
    · exact hrest c hc
  | plain hword hrest =>
    refine .plain hword fun c hc => ?_
    rcases hother c hc with rfl | hc
    · decide
    · exact hrest c hc
  | quoted hword hrest =>
    refine .quoted hword fun c hc => ?_
    rcases hother c hc with rfl | hc
    · decide
    · exact hrest c hc

/-- A mark is a lexeme whatever follows. -/
theorem IsLexeme.of_mark {kind : TokenKind} {text rest : List Char} (h : IsLexeme kind text rest)
    (hkind : kind ∈ [TokenKind.semicolon, .openBrace, .closeBrace]) (other : List Char) :
    IsLexeme kind text other := by
  cases h with
  | mark hmark => exact .mark hmark
  | comment _ _ => simp at hkind
  | plain _ _ => simp at hkind
  | quoted _ _ => simp at hkind

/-! ### Faults -/

/-- The texts that are no tokens, with what may follow them: a quote that none closes runs to
the end of the input, and after a quoted word a character stands that does not delimit it. -/
inductive IsFault : (text rest : List Char) → Prop where
  /-- A quote that is not closed. -/
  | unterminated {quote more} : isQuote quote = true →
      (∀ body rest, more = body ++ quote :: rest → ¬IsQuotedBody quote body) →
      IsFault (quote :: more) []
  /-- A quoted word that is not delimited. -/
  | undelimited {word c rest} : IsQuotedWord word → delimitsQuoted c = false →
      IsFault word (c :: rest)

theorem isBlank_quote {c : Char} (h : isQuote c = true) : isBlank c = false := by
  obtain rfl | rfl : c = '"' ∨ c = '\'' := by simpa [isQuote] using h
  · decide
  · decide

/-- A fault starts with a quote. -/
theorem IsFault.head_isQuote {text rest : List Char} (h : IsFault text rest) :
    ∃ quote cs, text = quote :: cs ∧ isQuote quote = true := by
  cases h with
  | unterminated hquote _ => exact ⟨_, _, rfl, hquote⟩
  | undelimited hword _ =>
    obtain ⟨quote, body, hquote, -, rfl⟩ := hword
    exact ⟨quote, _, rfl, hquote⟩

theorem closeQuote_eq_none_iff {quote : Char} {cs : List Char} :
    closeQuote quote false cs = none ↔
      ∀ body rest, cs = body ++ quote :: rest → ¬IsQuotedBody quote body := by
  rw [Option.eq_none_iff_forall_ne_some]
  constructor
  · rintro h body rest rfl hbody
    refine h (body ++ [quote], rest) ?_
    rw [← closeQuote_of_isQuotedBody hbody rest, List.append_assoc]
    rfl
  · rintro h ⟨closed, rest⟩ hclose
    obtain ⟨body, hbody, -, hcs⟩ := closeQuote_eq_some_iff.mp hclose
    exact h body rest hcs (isQuotedBody_iff_encloses.mpr hbody)

/-- The lexer stops at a fault. -/
theorem Lexeme.read_of_isFault {text rest : List Char} (h : IsFault text rest) :
    Lexeme.read (text ++ rest) = ⟨.invalid, text, rest⟩ := by
  cases h with
  | @unterminated quote more hquote hopen =>
    have hclose : closeQuote quote false more = none := closeQuote_eq_none_iff.mpr hopen
    rw [List.append_nil]
    simp [Lexeme.read, punctuation?_quote hquote, isQuote_ne_hash hquote, hquote, hclose]
  | @undelimited _ c more hword hc =>
    obtain ⟨quote, body, hquote, hbody, rfl⟩ := hword
    have hclose := closeQuote_of_isQuotedBody hbody (c :: more)
    simp only [List.cons_append, Lexeme.read, punctuation?_quote hquote,
      if_neg (isQuote_ne_hash hquote), hquote, if_true, hclose]
    simp [hc]

/-- The lexer stops at nothing else. -/
theorem Lexeme.isFault_read {cs : List Char} (h : (Lexeme.read cs).kind = .invalid) :
    IsFault (Lexeme.read cs).text (Lexeme.read cs).rest := by
  cases cs with
  | nil => simp [Lexeme.read] at h
  | cons c cs =>
    simp only [Lexeme.read] at h ⊢
    cases hmark : punctuation? c with
    | some kind =>
      rw [hmark] at h
      obtain ⟨-, rfl⟩ | ⟨-, rfl⟩ | ⟨-, rfl⟩ := punctuation?_eq_some hmark <;> simp at h
    | none =>
      rw [hmark] at h
      dsimp only at h ⊢
      by_cases hhash : c = '#'
      · simp [hhash] at h
      · rw [if_neg hhash] at h ⊢
        by_cases hquote : isQuote c = true
        · rw [if_pos hquote] at h ⊢
          cases hclose : closeQuote c false cs with
          | none => exact .unterminated hquote (closeQuote_eq_none_iff.mp hclose)
          | some closed =>
            obtain ⟨closed, rest⟩ := closed
            rw [hclose] at h
            dsimp only at h ⊢
            obtain ⟨body, hbody, rfl, -⟩ := closeQuote_eq_some_iff.mp hclose
            have hword : IsQuotedWord (c :: (body ++ [c])) :=
              ⟨c, body, hquote, isQuotedBody_iff_encloses.mpr hbody, rfl⟩
            cases rest with
            | nil => simp at h
            | cons d rest =>
              refine .undelimited hword ?_
              cases hd : delimitsQuoted d with
              | true => simp [hd] at h
              | false => rfl
        · rw [if_neg hquote] at h
          simp at h

/-- A text is cut no further than to its first fault. -/
theorem tokensFrom_of_isFault {offset : Nat} {gap text rest : List Char}
    (hgap : ∀ c ∈ gap, isBlank c = true) (h : IsFault text rest) :
    tokensFrom offset (gap ++ (text ++ rest)) =
      ([], .faulty (Lexeme.fault ⟨offset + byteLength gap,
        offset + byteLength gap + byteLength text⟩ rest)) := by
  obtain ⟨quote, cs, rfl, hquote⟩ := h.head_isQuote
  have hhead : ∀ d ∈ (quote :: cs ++ rest).head?, isBlank d = false := by
    simp [isBlank_quote hquote]
  have hscan : scan offset (gap ++ (quote :: cs ++ rest)) =
      (⟨.invalid, String.ofList (quote :: cs), ⟨offset + byteLength gap,
        offset + byteLength gap + byteLength (quote :: cs)⟩⟩, rest) := by
    unfold scan
    rw [takeWhile_run hgap hhead, dropWhile_run hgap hhead, Lexeme.read_of_isFault h]
  have hinvalid : (scan offset (gap ++ (quote :: cs ++ rest))).1.kind = .invalid := by rw [hscan]
  rw [tokensFrom_of_invalid hinvalid, hscan]

/-- Where the tokens end in a fault without any before it, that fault stands at the head. -/
theorem exists_isFault_of_tokensFrom {offset : Nat} {cs : List Char} {error : LexError}
    (h : tokensFrom offset cs = ([], .faulty error)) :
    ∃ gap text rest, (∀ c ∈ gap, isBlank c = true) ∧ IsFault text rest ∧
      cs = gap ++ (text ++ rest) ∧
      error = Lexeme.fault ⟨offset + byteLength gap,
        offset + byteLength gap + byteLength text⟩ rest := by
  rcases head_cases offset cs with hgap | ⟨gap, kind, text, rest, hgap, hlexeme, rfl⟩ | hinvalid
  · rw [tokensFrom_of_blank hgap] at h
    simp at h
  · rw [tokensFrom_of_isLexeme hgap hlexeme] at h
    simp at h
  · rw [tokensFrom_of_invalid hinvalid] at h
    refine ⟨cs.takeWhile isBlank, _, _, fun c hc => List.mem_takeWhile_imp hc,
      Lexeme.isFault_read hinvalid, ?_, ?_⟩
    · rw [Lexeme.text_append_rest, List.takeWhile_append_dropWhile]
    · exact (Ending.faulty.inj (Prod.mk.inj h).2).symm

/-- With a filler that is neither a quote nor a backslash, an open quote can be closed. -/
theorem encloses_of_closeQuote_eq_none {quote : Char} {escaped : Bool} {cs : List Char}
    (hquote : isQuote quote = true) (h : closeQuote quote escaped cs = none) :
    Encloses quote escaped (cs ++ [' ']) := by
  induction cs generalizing escaped with
  | nil =>
    refine ⟨?_, rfl⟩
    rintro rfl
    exact absurd hquote (by decide)
  | cons c cs ih =>
    rw [closeQuote] at h
    by_cases hc : c = quote ∧ escaped = false
    · simp [hc] at h
    · rw [if_neg hc, Option.map_eq_none_iff] at h
      exact ⟨fun heq => by simpa [heq] using hc, ih h⟩

theorem isQuotedWord_of_unterminated {quote : Char} {more : List Char}
    (hquote : isQuote quote = true)
    (hopen : ∀ body rest, more = body ++ quote :: rest → ¬IsQuotedBody quote body) :
    IsQuotedWord (quote :: (more ++ [' '] ++ [quote])) := by
  have hencloses := encloses_of_closeQuote_eq_none hquote (closeQuote_eq_none_iff.mpr hopen)
  exact ⟨quote, more ++ [' '], hquote, isQuotedBody_iff_encloses.mpr hencloses, rfl⟩

/-! ### The tokens before a place -/

/-- The characters `before` are cut into tokens when `left` stands after them. The last of them
belongs to the last token. -/
inductive CutBefore : (offset : Nat) → (before : List Char) → List Token → (left : List Char) →
    Prop where
  /-- Nothing is cut. -/
  | nil {offset left} : CutBefore offset [] [] left
  /-- A gap, a lexeme, and what follows them. -/
  | token {offset gap kind text before tokens left} : (∀ c ∈ gap, isBlank c = true) →
      IsLexeme kind text (before ++ left) →
      CutBefore (offset + byteLength gap + byteLength text) before tokens left →
      CutBefore offset (gap ++ (text ++ before))
        (⟨kind, String.ofList text,
          ⟨offset + byteLength gap, offset + byteLength gap + byteLength text⟩⟩ :: tokens) left

/-- One gap and one lexeme. -/
theorem cutBefore_lexeme {offset : Nat} {gap text left : List Char} {kind : TokenKind}
    (hgap : ∀ c ∈ gap, isBlank c = true) (h : IsLexeme kind text left) :
    CutBefore offset (gap ++ text)
      [⟨kind, String.ofList text,
        ⟨offset + byteLength gap, offset + byteLength gap + byteLength text⟩⟩] left := by
  have hcut := @CutBefore.token offset gap kind text [] [] left hgap h .nil
  rwa [List.append_nil] at hcut

namespace CutBefore

variable {offset : Nat} {before left : List Char} {tokens : List Token}

/-- Other characters may follow, if they delimit what the present ones do. -/
theorem replace (h : CutBefore offset before tokens left) {other : List Char}
    (hother : Replaces other left) : CutBefore offset before tokens other := by
  induction h with
  | nil => exact .nil
  | token hgap hlexeme _ ih => exact .token hgap (hlexeme.replace (hother.append _)) (ih hother)

/-- More tokens may be cut off what follows. -/
theorem append {more : List Char} {others : List Token}
    (h : CutBefore offset before tokens (more ++ left))
    (hmore : CutBefore (offset + byteLength before) more others left) :
    CutBefore offset (before ++ more) (tokens ++ others) left := by
  generalize hright : more ++ left = right at h
  induction h with
  | nil => simpa [byteLength] using hmore
  | token hgap hlexeme _ ih =>
    subst hright
    rw [List.append_assoc, List.append_assoc]
    rw [← List.append_assoc] at hlexeme
    refine .token hgap hlexeme (ih ?_ rfl)
    simpa [Nat.add_assoc] using hmore

/-- All that follows may be cut. -/
theorem finish {others : List Token} (h : CutBefore offset before tokens left)
    (hleft : Cut (offset + byteLength before) left others) :
    Cut offset (before ++ left) (tokens ++ others) := by
  induction h with
  | nil => simpa [byteLength] using hleft
  | token hgap hlexeme _ ih =>
    rw [List.append_assoc, List.append_assoc]
    refine .token hgap hlexeme (ih ?_)
    simpa [Nat.add_assoc] using hleft

/-- The tokens of the whole text are those before the place and those after it. -/
theorem tokensFrom_eq (h : CutBefore offset before tokens left) :
    tokensFrom offset (before ++ left) =
      (tokens ++ (tokensFrom (offset + byteLength before) left).1,
        (tokensFrom (offset + byteLength before) left).2) := by
  induction h with
  | nil => rfl
  | @token offset gap kind text before tokens left hgap hlexeme _ ih =>
    have hoffset : offset + byteLength gap + byteLength text + byteLength before =
        offset + byteLength (gap ++ (text ++ before)) := by
      simp only [byteLength_append, Nat.add_assoc]
    rw [hoffset] at ih
    rw [List.append_assoc, List.append_assoc, tokensFrom_of_isLexeme hgap hlexeme, ih]
    rfl

end CutBefore

/-- Where tokens are read, the first of them stands at the head. -/
theorem exists_isLexeme_of_tokensFrom {offset : Nat} {cs : List Char} {token : Token}
    {more : List Token} {ending : Ending} (h : tokensFrom offset cs = (token :: more, ending)) :
    ∃ gap kind text rest, (∀ c ∈ gap, isBlank c = true) ∧ IsLexeme kind text rest ∧
      cs = gap ++ (text ++ rest) ∧
      token = ⟨kind, String.ofList text,
        ⟨offset + byteLength gap, offset + byteLength gap + byteLength text⟩⟩ ∧
      tokensFrom (offset + byteLength gap + byteLength text) rest = (more, ending) := by
  rcases head_cases offset cs with hgap | ⟨gap, kind, text, rest, hgap, hlexeme, rfl⟩ | hinvalid
  · rw [tokensFrom_of_blank hgap] at h
    simp at h
  · rw [tokensFrom_of_isLexeme hgap hlexeme] at h
    obtain ⟨htokens, hending⟩ := Prod.mk.inj h
    obtain ⟨htoken, hrest⟩ := List.cons.inj htokens
    exact ⟨gap, kind, text, rest, hgap, hlexeme, rfl, htoken.symm, Prod.ext hrest hending⟩
  · rw [tokensFrom_of_invalid hinvalid] at h
    simp at h

/-- Any number of the tokens of a text are those before some place. -/
theorem exists_cutBefore {offset : Nat} {cs : List Char} {tokens more : List Token}
    {ending : Ending} (h : tokensFrom offset cs = (tokens ++ more, ending)) :
    ∃ before left, cs = before ++ left ∧ CutBefore offset before tokens left ∧
      tokensFrom (offset + byteLength before) left = (more, ending) := by
  induction tokens generalizing offset cs with
  | nil => exact ⟨[], cs, rfl, .nil, h⟩
  | cons t tokens ih =>
    obtain ⟨gap, kind, text, rest, hgap, hlexeme, rfl, rfl, hrest⟩ :=
      exists_isLexeme_of_tokensFrom h
    obtain ⟨before, left, rfl, hcut, hleft⟩ := ih hrest
    refine ⟨gap ++ (text ++ before), left, by simp, .token hgap hlexeme hcut, ?_⟩
    rw [← hleft]
    simp only [byteLength_append, Nat.add_assoc]

end Waymark.Config
