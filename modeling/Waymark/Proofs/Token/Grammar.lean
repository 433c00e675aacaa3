import Mathlib.Data.List.TakeWhile
import Waymark.Config.Token.Lexer

/-!
# Waymark.Proofs.Token.Grammar

The lexical grammar of configuration texts, and that `tokenize` accepts exactly
the texts that it derives.

The grammar says nothing about reading: `IsLexeme` gives the shape of each kind of
token together with what may follow it, and `Cut` cuts a text into gaps of blanks
and lexemes, each token bearing the range of bytes that its text takes up. Two facts
connect it with the lexer:

* `Lexeme.read_of_isLexeme`: at the head of a text the lexer finds the lexeme that
  stands there, since what follows it ends it;
* `Lexeme.isLexeme_read`: whatever the lexer finds, faults and the end of the input
  aside, is a lexeme.

Both are lifted to whole texts by an induction over the tokens
(`tokensFrom_eq_finished_iff`).
-/

namespace Waymark.Config

/-! ### Words -/

/-- A plain word: not empty, without blanks, braces and semicolons, and neither a
comment nor a quoted word by its first character. -/
structure IsPlainWord (text : List Char) : Prop where
  /-- It has a first character. -/
  ne_nil : text ≠ []
  /-- The first character opens neither a comment nor a quoted word. -/
  head : ∀ c ∈ text.head?, c ≠ '#' ∧ isQuote c = false
  /-- No blank and no mark of punctuation stands in it. -/
  plain : ∀ c ∈ text, isPlain c = true

/-- Whether a text is a plain word, as a test. -/
theorem isPlainWord_iff {text : List Char} : IsPlainWord text ↔
    (!text.isEmpty && text.head?.all (fun c => c != '#' && !isQuote c) && text.all isPlain)
      = true := by
  cases text with
  | nil => exact ⟨fun h => absurd rfl h.ne_nil, fun h => by simp at h⟩
  | cons c cs =>
    constructor
    · intro ⟨_, hhead, hplain⟩
      simp_all
    · intro h
      exact ⟨by simp, by simp_all, by simp_all⟩

instance (text : List Char) : Decidable (IsPlainWord text) := decidable_of_iff' _ isPlainWord_iff

/-- What may stand between two quotes: every such quote inside has a backslash just
before it, and the closing one has not. -/
structure IsQuotedBody (quote : Char) (body : List Char) : Prop where
  /-- A quote inside is preceded by a backslash. -/
  escaped : ∀ before after, body = before ++ quote :: after → before.getLast? = some '\\'
  /-- The last character is no backslash. -/
  unescaped : body.getLast? ≠ some '\\'

/-- A quoted word: a quote, what it encloses, and the same quote. -/
def IsQuotedWord (text : List Char) : Prop :=
  ∃ quote body, isQuote quote = true ∧ IsQuotedBody quote body ∧
    text = quote :: (body ++ [quote])

/-- A word, plain or quoted. -/
def IsWord (text : List Char) : Prop := IsPlainWord text ∨ IsQuotedWord text

/-! ### Lexemes and texts -/

/-- The texts of each kind of token, with what may follow them. A character of
punctuation is a token whatever follows. A comment runs to the end of its line, a
plain word to a blank or a character of punctuation, and a quoted word must be
followed by a blank, a semicolon or nothing. -/
inductive IsLexeme : TokenKind → (text rest : List Char) → Prop where
  /-- A brace or a semicolon. -/
  | mark {c kind rest} : punctuation? c = some kind → IsLexeme kind [c] rest
  /-- A `#` and the rest of its line. -/
  | comment {line rest} : (∀ c ∈ line, isLineEnd c = false) →
      (∀ c ∈ rest.head?, isLineEnd c = true) → IsLexeme .comment ('#' :: line) rest
  /-- A plain word. -/
  | plain {text rest} : IsPlainWord text → (∀ c ∈ rest.head?, isPlain c = false) →
      IsLexeme .word text rest
  /-- A quoted word. -/
  | quoted {text rest} : IsQuotedWord text → (∀ c ∈ rest.head?, delimitsQuoted c = true) →
      IsLexeme .word text rest

/-- A text whose first character has the offset given is cut into tokens with gaps of
blanks before, between and after them. The span of a token is the range of bytes that
its characters take up. -/
inductive Cut : (offset : Nat) → List Char → List Token → Prop where
  /-- Blanks only. -/
  | blank {offset gap} : (∀ c ∈ gap, isBlank c = true) → Cut offset gap []
  /-- A gap, a lexeme, and what follows them. -/
  | token {offset gap kind text rest tokens} : (∀ c ∈ gap, isBlank c = true) →
      IsLexeme kind text rest →
      Cut (offset + byteLength gap + byteLength text) rest tokens →
      Cut offset (gap ++ (text ++ rest))
        (⟨kind, String.ofList text,
          ⟨offset + byteLength gap, offset + byteLength gap + byteLength text⟩⟩ :: tokens)

/-! ### Quoted words, character by character

`closeQuote` carries one bit from character to character, whereas `IsQuotedBody` looks
back. `Encloses` is the same condition with the bit. -/

/-- Whether some characters may stand before a closing quote, when `escaped` says
whether a backslash stands before the first of them. -/
def Encloses (quote : Char) : (escaped : Bool) → List Char → Prop
  | escaped, [] => escaped = false
  | escaped, c :: cs => (c = quote → escaped = true) ∧ Encloses quote (c = '\\') cs

/-- `closeQuote` finds the first quote that the characters before it may precede. -/
theorem closeQuote_eq_some_iff {quote : Char} {escaped : Bool} {cs closed rest : List Char} :
    closeQuote quote escaped cs = some (closed, rest) ↔
      ∃ body, Encloses quote escaped body ∧ closed = body ++ [quote] ∧
        cs = body ++ quote :: rest := by
  induction cs generalizing escaped closed with
  | nil => simp [closeQuote]
  | cons c cs ih =>
    rw [closeQuote]
    -- a quote that no backslash precedes ends the word, anything else belongs to its body
    by_cases hc : c = quote ∧ escaped = false
    · obtain ⟨rfl, rfl⟩ := hc
      rw [if_pos ⟨rfl, rfl⟩]
      constructor
      · intro h
        obtain ⟨rfl, rfl⟩ : [c] = closed ∧ cs = rest := by simpa using h
        exact ⟨[], rfl, rfl, rfl⟩
      · rintro ⟨body, hbody, rfl, hcs⟩
        cases body with
        | nil => simp_all
        | cons d body =>
          obtain ⟨rfl, -⟩ := List.cons.inj hcs
          exact absurd (hbody.1 rfl) (by simp)
    · rw [if_neg hc, Option.map_eq_some_iff]
      constructor
      · rintro ⟨⟨closed', rest'⟩, h, heq⟩
        obtain ⟨rfl, rfl⟩ : c :: closed' = closed ∧ rest' = rest := by simpa using heq
        obtain ⟨body, hbody, rfl, rfl⟩ := ih.mp h
        exact ⟨c :: body, ⟨fun hq => by simpa [hq] using hc, hbody⟩, rfl, rfl⟩
      · rintro ⟨body, hbody, rfl, hcs⟩
        cases body with
        | nil =>
          obtain ⟨rfl, -⟩ := List.cons.inj hcs
          exact absurd ⟨rfl, hbody⟩ hc
        | cons d body =>
          obtain ⟨rfl, rfl⟩ := List.cons.inj hcs
          exact ⟨(body ++ [quote], rest), ih.mpr ⟨body, hbody.2, rfl, rfl⟩, rfl⟩

/-- Whether a backslash stands just before what follows some characters, when
`escaped` says so of the first of them. -/
def endsInBackslash (escaped : Bool) (cs : List Char) : Bool :=
  cs.getLast?.elim escaped (· = '\\')

theorem endsInBackslash_cons (escaped : Bool) (c : Char) (cs : List Char) :
    endsInBackslash escaped (c :: cs) = endsInBackslash (c = '\\') cs := by
  unfold endsInBackslash
  rw [List.getLast?_cons]
  cases cs.getLast? <;> rfl

theorem endsInBackslash_false_iff (cs : List Char) :
    endsInBackslash false cs = true ↔ cs.getLast? = some '\\' := by
  unfold endsInBackslash
  cases cs.getLast? <;> simp

/-- The bit that is carried is the one that looking back finds. -/
theorem encloses_iff {quote : Char} {escaped : Bool} {body : List Char} :
    Encloses quote escaped body ↔
      (∀ before after, body = before ++ quote :: after →
        endsInBackslash escaped before = true) ∧
      endsInBackslash escaped body = false := by
  induction body generalizing escaped with
  | nil => simp [Encloses, endsInBackslash]
  | cons c cs ih =>
    rw [Encloses, ih, endsInBackslash_cons]
    constructor
    · rintro ⟨hc, hescaped, hlast⟩
      refine ⟨fun before after heq => ?_, hlast⟩
      -- the quote is `c` itself or one of the characters after it
      cases before with
      | nil => exact hc (List.cons.inj heq).1
      | cons d before =>
        obtain ⟨rfl, hcs⟩ := List.cons.inj heq
        rw [endsInBackslash_cons]
        exact hescaped before after hcs
    · rintro ⟨hescaped, hlast⟩
      refine ⟨fun hc => hescaped [] cs (by rw [hc]; rfl), fun before after hcs => ?_, hlast⟩
      rw [← endsInBackslash_cons escaped]
      exact hescaped (c :: before) after (by rw [hcs]; rfl)

theorem isQuotedBody_iff_encloses {quote : Char} {body : List Char} :
    IsQuotedBody quote body ↔ Encloses quote false body := by
  rw [encloses_iff, ← Bool.not_eq_true, endsInBackslash_false_iff]
  simp only [endsInBackslash_false_iff]
  exact ⟨fun h => ⟨h.escaped, h.unescaped⟩, fun h => ⟨h.1, h.2⟩⟩

theorem closeQuote_of_isQuotedBody {quote : Char} {body : List Char} (h : IsQuotedBody quote body)
    (rest : List Char) :
    closeQuote quote false (body ++ [quote] ++ rest) = some (body ++ [quote], rest) :=
  closeQuote_eq_some_iff.mpr ⟨body, isQuotedBody_iff_encloses.mp h, rfl, by simp⟩

/-! ### Runs of characters -/

/-- A run of characters of one class, followed by none of them, is what `takeWhile`
takes. -/
theorem takeWhile_run {p : Char → Bool} {run rest : List Char} (hrun : ∀ c ∈ run, p c = true)
    (hrest : ∀ c ∈ rest.head?, p c = false) : (run ++ rest).takeWhile p = run := by
  rw [List.takeWhile_append_of_pos hrun]
  cases rest with
  | nil => simp
  | cons c rest => simp [hrest c (by simp)]

/-- The same run is what `dropWhile` drops. -/
theorem dropWhile_run {p : Char → Bool} {run rest : List Char} (hrun : ∀ c ∈ run, p c = true)
    (hrest : ∀ c ∈ rest.head?, p c = false) : (run ++ rest).dropWhile p = rest := by
  rw [List.dropWhile_append_of_pos hrun]
  cases rest with
  | nil => rfl
  | cons c rest => simp [hrest c (by simp)]

theorem head?_dropWhile_eq_false {p : Char → Bool} {cs : List Char} :
    ∀ c ∈ (cs.dropWhile p).head?, p c = false := by
  intro c hc
  have h := List.head?_dropWhile_not p cs
  rw [Option.mem_def.mp hc] at h
  simpa using h

/-! ### One lexeme -/

/-- Which characters are plain, spelled out. -/
theorem isPlain_iff {c : Char} : isPlain c = true ↔ isBlank c = false ∧ punctuation? c = none := by
  simp [isPlain]

theorem punctuation?_eq_some {c : Char} {kind : TokenKind} (h : punctuation? c = some kind) :
    (c = '{' ∧ kind = .openBrace) ∨ (c = '}' ∧ kind = .closeBrace) ∨
      (c = ';' ∧ kind = .semicolon) := by
  unfold punctuation? at h
  split at h <;> simp_all

theorem punctuation?_hash : punctuation? '#' = none := by decide

theorem punctuation?_quote {c : Char} (h : isQuote c = true) : punctuation? c = none := by
  obtain rfl | rfl : c = '"' ∨ c = '\'' := by simpa [isQuote] using h
  · decide
  · decide

theorem isQuote_ne_hash {c : Char} (h : isQuote c = true) : c ≠ '#' := by
  rintro rfl
  exact absurd h (by decide)

/-- A lexeme starts with a character that is not blank. -/
theorem IsLexeme.head_not_blank {kind : TokenKind} {text rest : List Char}
    (h : IsLexeme kind text rest) : ∃ c cs, text = c :: cs ∧ isBlank c = false := by
  cases h with
  | @mark c _ _ hc =>
    refine ⟨c, [], rfl, ?_⟩
    obtain ⟨rfl, -⟩ | ⟨rfl, -⟩ | ⟨rfl, -⟩ := punctuation?_eq_some hc
    · decide
    · decide
    · decide
  | comment _ _ => exact ⟨'#', _, rfl, by decide⟩
  | plain hword _ =>
    obtain ⟨c, cs, rfl⟩ := List.exists_cons_of_ne_nil hword.ne_nil
    exact ⟨c, cs, rfl, (isPlain_iff.mp (hword.plain c (by simp))).1⟩
  | quoted hword _ =>
    obtain ⟨quote, body, hquote, -, rfl⟩ := hword
    refine ⟨quote, _, rfl, ?_⟩
    obtain rfl | rfl : quote = '"' ∨ quote = '\'' := by simpa [isQuote] using hquote
    · decide
    · decide

/-- A lexeme marks no end of the input and is no fault. -/
theorem IsLexeme.kind_ne {kind : TokenKind} {text rest : List Char}
    (h : IsLexeme kind text rest) : kind ≠ .endOfInput ∧ kind ≠ .invalid := by
  cases h with
  | mark hc => obtain ⟨-, rfl⟩ | ⟨-, rfl⟩ | ⟨-, rfl⟩ := punctuation?_eq_some hc <;> simp
  | comment _ _ => simp
  | plain _ _ => simp
  | quoted _ _ => simp

/-- Only where nothing is left does the lexer find the end of the input. -/
theorem Lexeme.eq_nil_of_endOfInput {cs : List Char}
    (h : (Lexeme.read cs).kind = .endOfInput) : cs = [] := by
  cases cs with
  | nil => rfl
  | cons c cs =>
    simp only [Lexeme.read] at h
    split at h
    · next kind hc =>
      obtain ⟨-, rfl⟩ | ⟨-, rfl⟩ | ⟨-, rfl⟩ := punctuation?_eq_some hc <;> simp at h
    · split at h
      · simp at h
      · split at h
        · split at h
          · simp at h
          · dsimp only at h
            split at h <;> simp at h
        · simp at h

/-- The lexer finds the lexeme that stands at the head of a text. -/
theorem Lexeme.read_of_isLexeme {kind : TokenKind} {text rest : List Char}
    (h : IsLexeme kind text rest) : Lexeme.read (text ++ rest) = ⟨kind, text, rest⟩ := by
  cases h with
  | mark hc => simp [Lexeme.read, hc]
  | @comment line _ hline hrest =>
    have hnot : ∀ c ∈ rest.head?, (!isLineEnd c) = false := fun c hc => by simp [hrest c hc]
    have hrun : ∀ c ∈ line, (!isLineEnd c) = true := fun c hc => by simp [hline c hc]
    simp only [List.cons_append, Lexeme.read, punctuation?_hash, if_true]
    rw [takeWhile_run hrun hnot, dropWhile_run hrun hnot]
  | plain hword hrest =>
    obtain ⟨c, cs, rfl⟩ := List.exists_cons_of_ne_nil hword.ne_nil
    obtain ⟨hhash, hquote⟩ := hword.head c (by simp)
    have hrun : ∀ d ∈ cs, isPlain d = true := fun d hd => hword.plain d (by simp [hd])
    have hmark := (isPlain_iff.mp (hword.plain c (by simp))).2
    simp only [List.cons_append, Lexeme.read, hmark, if_neg hhash, hquote, Bool.false_eq_true,
      if_false]
    rw [takeWhile_run hrun hrest, dropWhile_run hrun hrest]
  | quoted hword hrest =>
    obtain ⟨quote, body, hquote, hbody, rfl⟩ := hword
    have hclose := closeQuote_of_isQuotedBody hbody rest
    have hall : rest.head?.all delimitsQuoted = true := by
      rw [Option.all_eq_true_iff_get]
      exact fun hsome => hrest _ (Option.get_mem hsome)
    simp only [List.cons_append, Lexeme.read, punctuation?_quote hquote,
      if_neg (isQuote_ne_hash hquote), hquote, if_true, hclose, hall]

/-- What the lexer finds at the head of a text is a lexeme, unless it is a fault or the
end of the input. -/
theorem Lexeme.isLexeme_read {cs : List Char} (hblank : ∀ c ∈ cs.head?, isBlank c = false)
    (hend : (Lexeme.read cs).kind ≠ .endOfInput) (hvalid : (Lexeme.read cs).kind ≠ .invalid) :
    IsLexeme (Lexeme.read cs).kind (Lexeme.read cs).text (Lexeme.read cs).rest := by
  cases cs with
  | nil => exact absurd rfl hend
  | cons c cs =>
    have hb := hblank c (by simp)
    simp only [Lexeme.read] at hvalid ⊢
    -- in the order of the lexer: a mark, a comment, a quoted word, a plain word
    cases hmark : punctuation? c with
    | some kind => exact .mark hmark
    | none =>
      rw [hmark] at hvalid
      dsimp only at hvalid ⊢
      by_cases hhash : c = '#'
      · subst hhash
        rw [if_pos rfl]
        refine .comment (fun d hd => ?_) (fun d hd => ?_)
        · simpa using List.mem_takeWhile_imp hd
        · simpa using head?_dropWhile_eq_false d hd
      · rw [if_neg hhash] at hvalid ⊢
        by_cases hquote : isQuote c = true
        · rw [if_pos hquote] at hvalid ⊢
          cases hclose : closeQuote c false cs with
          | none => simp [hclose] at hvalid
          | some closed =>
            obtain ⟨closed, rest⟩ := closed
            rw [hclose] at hvalid
            dsimp only at hvalid ⊢
            obtain ⟨body, hbody, rfl, rfl⟩ := closeQuote_eq_some_iff.mp hclose
            by_cases hall : rest.head?.all delimitsQuoted = true
            · rw [if_pos hall]
              refine .quoted ⟨c, body, hquote, isQuotedBody_iff_encloses.mpr hbody, rfl⟩ ?_
              intro d hd
              rw [Option.mem_def.mp hd] at hall
              simpa using hall
            · exact absurd (if_neg hall) hvalid
        · rw [if_neg hquote] at hvalid ⊢
          refine .plain ⟨by simp, ?_, ?_⟩ head?_dropWhile_eq_false
          · intro d hd
            obtain rfl : c = d := by simpa using hd
            exact ⟨hhash, by simpa using hquote⟩
          · intro d hd
            rcases List.mem_cons.mp hd with rfl | hd
            · exact isPlain_iff.mpr ⟨hb, hmark⟩
            · exact List.mem_takeWhile_imp hd

/-! ### Whole texts -/

/-- More blanks at the start change no token. -/
theorem Cut.prepend {offset : Nat} {gap cs : List Char} {tokens : List Token}
    (hgap : ∀ c ∈ gap, isBlank c = true) (h : Cut (offset + byteLength gap) cs tokens) :
    Cut offset (gap ++ cs) tokens := by
  have hblank : ∀ {more : List Char}, (∀ c ∈ more, isBlank c = true) →
      ∀ c ∈ gap ++ more, isBlank c = true := by
    intro more hmore c hc
    rcases List.mem_append.mp hc with hc | hc
    · exact hgap c hc
    · exact hmore c hc
  cases h with
  | blank hmore => exact .blank (hblank hmore)
  | @token _ more kind text rest tokens hmore hlexeme hrest =>
    have hoffset : offset + byteLength gap + byteLength more =
        offset + byteLength (gap ++ more) := by
      rw [byteLength_append, Nat.add_assoc]
    rw [hoffset] at hrest ⊢
    rw [← List.append_assoc]
    exact .token (hblank hmore) hlexeme hrest

/-- One token is read off a gap and a lexeme. -/
theorem scan_of_isLexeme {offset : Nat} {gap text rest : List Char} {kind : TokenKind}
    (hgap : ∀ c ∈ gap, isBlank c = true) (h : IsLexeme kind text rest) :
    scan offset (gap ++ (text ++ rest)) =
      (⟨kind, String.ofList text,
        ⟨offset + byteLength gap, offset + byteLength gap + byteLength text⟩⟩, rest) := by
  obtain ⟨c, cs, rfl, hc⟩ := h.head_not_blank
  have hhead : ∀ d ∈ (c :: cs ++ rest).head?, isBlank d = false := by simp [hc]
  unfold scan
  rw [takeWhile_run hgap hhead, dropWhile_run hgap hhead, Lexeme.read_of_isLexeme h]

/-- At blanks the end of the input is read. -/
theorem scan_of_blank {offset : Nat} {gap : List Char} (hgap : ∀ c ∈ gap, isBlank c = true) :
    scan offset gap = (⟨.endOfInput, "", ⟨offset + byteLength gap, offset + byteLength gap⟩⟩, []) := by
  have htake : gap.takeWhile isBlank = gap := List.takeWhile_eq_self_iff.mpr hgap
  have hdrop : gap.dropWhile isBlank = [] := List.dropWhile_eq_nil_iff.mpr hgap
  unfold scan
  rw [htake, hdrop]
  rfl

/-- At the head of a text stand blanks only, or a gap and a lexeme, or a fault. -/
theorem head_cases (offset : Nat) (cs : List Char) :
    (∀ c ∈ cs, isBlank c = true) ∨
      (∃ gap kind text rest, (∀ c ∈ gap, isBlank c = true) ∧ IsLexeme kind text rest ∧
        cs = gap ++ (text ++ rest)) ∨
      (scan offset cs).1.kind = .invalid := by
  by_cases hend : (Lexeme.read (cs.dropWhile isBlank)).kind = .endOfInput
  · exact Or.inl (List.dropWhile_eq_nil_iff.mp (Lexeme.eq_nil_of_endOfInput hend))
  · by_cases hvalid : (Lexeme.read (cs.dropWhile isBlank)).kind = .invalid
    · exact Or.inr (Or.inr hvalid)
    · have hlexeme := Lexeme.isLexeme_read head?_dropWhile_eq_false hend hvalid
      refine Or.inr (Or.inl ⟨cs.takeWhile isBlank, _, _, _,
        fun c hc => List.mem_takeWhile_imp hc, hlexeme, ?_⟩)
      rw [Lexeme.text_append_rest, List.takeWhile_append_dropWhile]

theorem tokensFrom_of_blank {offset : Nat} {gap : List Char}
    (hgap : ∀ c ∈ gap, isBlank c = true) :
    tokensFrom offset gap = ([], .finished (offset + byteLength gap)) := by
  rw [tokensFrom]
  simp [scan_of_blank hgap]

theorem tokensFrom_of_isLexeme {offset : Nat} {gap text rest : List Char} {kind : TokenKind}
    (hgap : ∀ c ∈ gap, isBlank c = true) (h : IsLexeme kind text rest) :
    tokensFrom offset (gap ++ (text ++ rest)) =
      (⟨kind, String.ofList text,
          ⟨offset + byteLength gap, offset + byteLength gap + byteLength text⟩⟩ ::
        (tokensFrom (offset + byteLength gap + byteLength text) rest).1,
        (tokensFrom (offset + byteLength gap + byteLength text) rest).2) := by
  rw [tokensFrom]
  simp [scan_of_isLexeme hgap h, h.kind_ne]

theorem tokensFrom_of_invalid {offset : Nat} {cs : List Char}
    (h : (scan offset cs).1.kind = .invalid) :
    tokensFrom offset cs =
      ([], .faulty (Lexeme.fault (scan offset cs).1.span (scan offset cs).2)) := by
  rw [tokensFrom]
  simp [h]

/-- A text is read to its end exactly when it can be cut, and into those tokens. -/
theorem tokensFrom_eq_finished_iff {offset stop : Nat} {cs : List Char} {tokens : List Token} :
    tokensFrom offset cs = (tokens, .finished stop) ↔
      Cut offset cs tokens ∧ stop = offset + byteLength cs := by
  constructor
  · intro h
    -- on the number of characters left: a lexeme has at least one
    induction hn : cs.length using Nat.strong_induction_on generalizing offset cs tokens with
    | _ n ih =>
      rcases head_cases offset cs with hgap | ⟨gap, kind, text, rest, hgap, hlexeme, rfl⟩ | hinvalid
      · rw [tokensFrom_of_blank hgap] at h
        obtain ⟨rfl, rfl⟩ : [] = tokens ∧ offset + byteLength cs = stop := by simpa using h
        exact ⟨.blank hgap, rfl⟩
      · rw [tokensFrom_of_isLexeme hgap hlexeme] at h
        obtain ⟨c, cs, rfl, -⟩ := hlexeme.head_not_blank
        obtain ⟨rfl, hrest⟩ := Prod.mk.inj h
        have hlt : rest.length < n := by
          rw [← hn]
          simp
          omega
        obtain ⟨hcut, rfl⟩ := ih _ hlt (Prod.ext rfl hrest) rfl
        refine ⟨.token hgap hlexeme hcut, ?_⟩
        simp only [byteLength_append]
        omega
      · rw [tokensFrom_of_invalid hinvalid] at h
        simp at h
  · rintro ⟨h, rfl⟩
    induction h with
    | blank hgap => exact tokensFrom_of_blank hgap
    | @token offset gap kind text rest tokens hgap hlexeme _ ih =>
      rw [tokensFrom_of_isLexeme hgap hlexeme, ih]
      simp only [byteLength_append, Nat.add_assoc]

/-- The tokens of a source are all that its stream has, and the stream ends after the last
byte. -/
theorem tokenize_eq_ok_iff_tokenStream {source : String} {tokens : List Token} :
    tokenize source = .ok tokens ↔
      tokenStream source = (tokens, .finished (byteLength source.toList)) := by
  unfold tokenize
  constructor
  · intro h
    rcases hstream : tokenStream source with ⟨read, stop | error⟩
    · rw [hstream] at h
      obtain rfl := Except.ok.inj h
      obtain ⟨-, rfl⟩ := tokensFrom_eq_finished_iff.mp hstream
      rw [Nat.zero_add]
    · rw [hstream] at h
      cases h
  · intro h
    rw [h]

/-- A source that is read to its end is cut into the tokens that are read. -/
theorem cut_of_tokenize {source : String} {tokens : List Token}
    (h : tokenize source = .ok tokens) : Cut 0 source.toList tokens :=
  (tokensFrom_eq_finished_iff.mp (tokenize_eq_ok_iff_tokenStream.mp h)).1

/-- However a source can be cut, those are the tokens that are read. -/
theorem tokenize_of_cut {source : String} {tokens : List Token}
    (h : Cut 0 source.toList tokens) : tokenize source = .ok tokens :=
  tokenize_eq_ok_iff_tokenStream.mpr
    (tokensFrom_eq_finished_iff.mpr ⟨h, (Nat.zero_add _).symm⟩)

/-- **Tokens are the lexemes of a text.** A source has a list of tokens exactly when the
lexical grammar cuts it into those tokens: every character belongs to a gap of blanks or
to one token, and the span of the token says where. -/
theorem tokenize_eq_ok_iff_cut (source : String) (tokens : List Token) :
    tokenize source = .ok tokens ↔ Cut 0 source.toList tokens :=
  ⟨cut_of_tokenize, tokenize_of_cut⟩

end Waymark.Config
