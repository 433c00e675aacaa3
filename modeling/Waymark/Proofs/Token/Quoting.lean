import Waymark.Config.Quoting
import Waymark.Proofs.Token.Extension

/-!
# Waymark.Proofs.Token.Quoting

Quoted words and the texts that they stand for.

The lexer decides where a quoted word ends by the character before each quote, and
`unquote` drops backslashes from left to right once the word has ended. Neither knows of the
other. What they have in common is `escaped`, which puts a backslash before every quote: between
quotes that is a word unless the text ends in a backslash (`encloses_escaped_iff`), and
`unescape` takes it back (`unescape_escaped`).
-/

namespace Waymark.Config

/-! ### Writing quoted words -/

/-- A text with a backslash before every quote in it. -/
def escaped (quote : Char) (cs : List Char) : List Char :=
  cs.flatMap fun c => if c = quote then ['\\', c] else [c]

/-- The quoted word for a text. -/
def quoted (quote : Char) (value : String) : String :=
  String.ofList (quote :: (escaped quote value.toList ++ [quote]))

section Escaped

variable {quote c : Char}

@[simp] theorem escaped_nil (quote : Char) : escaped quote [] = [] := rfl

theorem escaped_cons_quote (quote : Char) (cs : List Char) :
    escaped quote (quote :: cs) = '\\' :: quote :: escaped quote cs := by
  simp [escaped]

theorem escaped_cons_of_ne (h : c ≠ quote) (cs : List Char) :
    escaped quote (c :: cs) = c :: escaped quote cs := by
  simp [escaped, h]

theorem isQuote_ne_backslash (h : isQuote c = true) : c ≠ '\\' := by
  rintro rfl
  exact absurd h (by decide)

/-- An escaped text does not begin with a quote. -/
theorem head?_escaped_ne (hquote : isQuote quote = true) (cs : List Char) :
    (escaped quote cs).head? ≠ some quote := by
  cases cs with
  | nil => simp
  | cons c cs =>
    by_cases hc : c = quote
    · subst hc
      rw [escaped_cons_quote, List.head?_cons, ne_eq, Option.some.injEq]
      exact (isQuote_ne_backslash hquote).symm
    · rw [escaped_cons_of_ne hc, List.head?_cons, ne_eq, Option.some.injEq]
      exact hc

/-- An escaped text can stand between quotes unless a backslash stands at its end. -/
theorem encloses_escaped_iff (hquote : isQuote quote = true) (before : Bool) (cs : List Char) :
    Encloses quote before (escaped quote cs) ↔ endsInBackslash before cs = false := by
  have hne := isQuote_ne_backslash hquote
  induction cs generalizing before with
  | nil => simp [Encloses, endsInBackslash]
  | cons c cs ih =>
    rw [endsInBackslash_cons]
    by_cases hc : c = quote
    · subst hc
      rw [escaped_cons_quote]
      simp [Encloses, hne.symm, ih]
    · rw [escaped_cons_of_ne hc]
      simp [Encloses, hc, ih]

/-! ### Reading them -/

theorem unescape_cons_of_ne {d : Char} (h : c = '\\' → d ≠ quote) (cs : List Char) :
    unescape quote (c :: d :: cs) = c :: unescape quote (d :: cs) := by
  rw [unescape, if_neg]
  rintro ⟨hc, hd⟩
  exact h hc hd

/-- Unescaping takes back what escaping did. -/
theorem unescape_escaped (hquote : isQuote quote = true) (cs : List Char) :
    unescape quote (escaped quote cs) = cs := by
  induction cs with
  | nil => rfl
  | cons c cs ih =>
    by_cases hc : c = quote
    · subst hc
      rw [escaped_cons_quote, unescape, if_pos ⟨rfl, rfl⟩, ih]
    · rw [escaped_cons_of_ne hc]
      cases hrest : escaped quote cs with
      | nil =>
        rw [hrest] at ih
        rw [← ih]
        rfl
      | cons d rest =>
        -- what follows begins with no quote, so `c` is dropped in no case
        have hd : d ≠ quote := by
          intro heq
          refine head?_escaped_ne hquote cs ?_
          rw [hrest, heq, List.head?_cons]
        rw [unescape_cons_of_ne (fun _ => hd), ← hrest, ih]

/-- Unescaping keeps the last character. -/
theorem getLast?_unescape (quote : Char) (cs : List Char) :
    (unescape quote cs).getLast? = cs.getLast? := by
  fun_induction unescape quote cs with
  | case1 => rfl
  | case2 c => rfl
  | case3 c d cs h ih =>
    rw [List.getLast?_cons, ih, List.getLast?_cons_cons, List.getLast?_cons]
  | case4 c d cs h ih =>
    rw [List.getLast?_cons, ih, ← List.getLast?_cons]

end Escaped

/-! ### Words and their texts -/

/-- The escaped form of a text between quotes is a quoted word. -/
theorem isQuotedWord_quoted {quote : Char} {value : String} (hquote : isQuote quote = true)
    (hvalue : value.toList.getLast? ≠ some '\\') : IsQuotedWord (quoted quote value).toList := by
  rw [quoted, String.toList_ofList]
  refine ⟨quote, _, hquote, isQuotedBody_iff_encloses.mpr ?_, rfl⟩
  rw [encloses_escaped_iff hquote, ← Bool.not_eq_true, endsInBackslash_false_iff]
  exact hvalue

theorem unquote_of_body {quote : Char} (hquote : isQuote quote = true) (body : List Char) :
    unquote (String.ofList (quote :: (body ++ [quote]))) = String.ofList (unescape quote body) := by
  simp [unquote, unquoteChars, hquote]

/-- A quoted word stands for the text for which it was written. -/
theorem unquote_quoted {quote : Char} (hquote : isQuote quote = true) (value : String) :
    unquote (quoted quote value) = value := by
  rw [quoted, unquote_of_body hquote, unescape_escaped hquote, String.ofList_toList]

/-- A plain word stands for itself. -/
theorem unquote_of_isPlainWord {word : String} (h : IsPlainWord word.toList) :
    unquote word = word := by
  obtain ⟨c, cs, hword⟩ := List.exists_cons_of_ne_nil h.ne_nil
  obtain ⟨-, hquote⟩ := h.head c (by simp [hword])
  have hchars : unquoteChars word.toList = word.toList := by
    rw [hword, unquoteChars, if_neg]
    simp [hquote]
  rw [unquote, hchars, String.ofList_toList]

/-- No quoted word stands for a text that ends in a backslash. -/
theorem getLast?_unquote_of_isQuotedWord {word : String} (h : IsQuotedWord word.toList) :
    (unquote word).toList.getLast? ≠ some '\\' := by
  obtain ⟨quote, body, hquote, hbody, hword⟩ := h
  rw [← String.ofList_toList (s := word), hword, unquote_of_body hquote, String.toList_ofList,
    getLast?_unescape]
  exact hbody.unescaped

/-- A quoted word by itself is one token. -/
theorem tokenize_of_isQuotedWord {word : String} (h : IsQuotedWord word.toList) :
    tokenize word = .ok [⟨.word, word, ⟨0, byteLength word.toList⟩⟩] := by
  have hlexeme : IsLexeme .word word.toList [] := .quoted h (by simp)
  have hgap : ∀ c ∈ ([] : List Char), isBlank c = true := by simp
  have hcut : Cut 0 ([] ++ (word.toList ++ [])) [_] := .token hgap hlexeme (.blank hgap)
  rw [String.ofList_toList, List.nil_append, List.append_nil] at hcut
  rw [tokenize_of_cut hcut]
  simp [byteLength]

theorem IsLexeme.isWord {text rest : List Char} (h : IsLexeme .word text rest) : IsWord text := by
  cases h with
  | mark hmark => rcases punctuation?_eq_some hmark with ⟨-, h⟩ | ⟨-, h⟩ | ⟨-, h⟩ <;> cases h
  | plain hword _ => exact Or.inl hword
  | quoted hword _ => exact Or.inr hword

theorem CutBefore.isWord {offset : Nat} {before left : List Char} {tokens : List Token}
    (h : CutBefore offset before tokens left) :
    ∀ t ∈ tokens, t.kind = .word → IsWord t.text.toList := by
  induction h with
  | nil => simp
  | token _ hlexeme _ ih =>
    intro t ht hword
    rcases List.mem_cons.mp ht with rfl | ht
    · obtain rfl := hword
      rw [String.toList_ofList]
      exact hlexeme.isWord
    · exact ih t ht hword

/-- The words of a text, up to its first fault if it has one, are plain or quoted. -/
theorem isWord_of_mem_tokenStream {source : String} {t : Token}
    (ht : t ∈ (tokenStream source).1) (hword : t.kind = .word) : IsWord t.text.toList := by
  have hstream : tokensFrom 0 source.toList =
      ((tokenStream source).1 ++ [], (tokenStream source).2) := by
    rw [List.append_nil]
    rfl
  obtain ⟨before, left, -, hcut, -⟩ := exists_cutBefore hstream
  exact hcut.isWord t ht hword

end Waymark.Config
