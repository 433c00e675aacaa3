import Waymark.Config.Load
import Waymark.Proofs.Rules.Places
import Waymark.Proofs.Tree.Flatten

/-!
# Waymark.Proofs.Tree.RoundTrip

Canonical text: which trees are read back from it.

The printer puts single blanks between words and a semicolon or a blank and a brace after
them, so what follows a word always delimits it, quoted or not. `Lexes` collects the tokens
of a text from its end towards its start, wherever the text may begin, and
`lexes_printAll` follows the printer with it. With the grammar of trees that gives
`parseTree_print_iff`: exactly the well-formed trees of proper words are read back.
-/

namespace Waymark.Config

/-! ### Tokens from the end of a text -/

/-- Wherever a text begins, it is cut into tokens of these kinds and texts. -/
def Lexes (cs : List Char) (items : List (TokenKind × String)) : Prop :=
  ∀ offset, ∃ tokens, Cut offset cs tokens ∧ tokens.map Token.item = items

theorem lexes_nil : Lexes [] [] := fun _ => ⟨[], .blank (by simp), rfl⟩

theorem Lexes.prepend {gap cs : List Char} {items : List (TokenKind × String)}
    (hgap : ∀ c ∈ gap, isBlank c = true) (h : Lexes cs items) : Lexes (gap ++ cs) items := by
  intro offset
  obtain ⟨tokens, hcut, hitems⟩ := h (offset + byteLength gap)
  exact ⟨tokens, hcut.prepend hgap, hitems⟩

theorem Lexes.cons_blank {c : Char} {cs : List Char} {items : List (TokenKind × String)}
    (hblank : isBlank c = true) (h : Lexes cs items) : Lexes (c :: cs) items := by
  have hgap : ∀ d ∈ [c], isBlank d = true := by simp [hblank]
  exact Lexes.prepend hgap h

/-- One more lexeme at the start is one more token. -/
theorem Lexes.lexeme {kind : TokenKind} {text rest : List Char}
    {items : List (TokenKind × String)} (hlexeme : IsLexeme kind text rest)
    (h : Lexes rest items) : Lexes (text ++ rest) ((kind, String.ofList text) :: items) := by
  intro offset
  obtain ⟨tokens, hcut, hitems⟩ := h (offset + byteLength [] + byteLength text)
  have hgap : ∀ c ∈ ([] : List Char), isBlank c = true := by simp
  exact ⟨_, .token hgap hlexeme hcut, by rw [List.map_cons, hitems]; rfl⟩

theorem Lexes.cons_mark {c : Char} {kind : TokenKind} {cs : List Char}
    {items : List (TokenKind × String)} (hmark : punctuation? c = some kind) (h : Lexes cs items) :
    Lexes (c :: cs) ((kind, String.ofList [c]) :: items) :=
  Lexes.lexeme (.mark hmark) h

/-! ### What the printer writes -/

/-- A text before which any word may end. -/
def DelimitsWords (rest : List Char) : Prop := ∀ c ∈ rest.head?, delimitsQuoted c = true

theorem delimitsWords_cons {c : Char} (h : delimitsQuoted c = true) (cs : List Char) :
    DelimitsWords (c :: cs) := by
  intro d hd
  obtain rfl : c = d := by simpa using hd
  exact h

theorem IsWord.isLexeme {text rest : List Char} (h : IsWord text) (hrest : DelimitsWords rest) :
    IsLexeme .word text rest := by
  rcases h with hplain | hquoted
  · refine .plain hplain fun c hc => ?_
    have hdelimits : isBlank c = true ∨ c = ';' := by simpa [delimitsQuoted] using hrest c hc
    rcases hdelimits with hblank | rfl
    · simp [isPlain, hblank]
    · decide
  · exact .quoted hquoted hrest

/-- Words with single blanks between them. -/
theorem lexes_words {words : List String} {rest : List Char}
    {items : List (TokenKind × String)} (hne : words ≠ [])
    (hwords : ∀ w ∈ words, IsWord w.toList) (hrest : DelimitsWords rest)
    (h : Lexes rest items) :
    Lexes ((" ".intercalate words).toList ++ rest)
      (words.map (TokenKind.word, ·) ++ items) := by
  induction words with
  | nil => exact absurd rfl hne
  | cons w words ih =>
    have hw := hwords w (by simp)
    cases words with
    | nil =>
      have hlexeme := Lexes.lexeme (hw.isLexeme hrest) h
      rw [String.ofList_toList] at hlexeme
      simpa using hlexeme
    | cons v words =>
      -- the blank before the next word delimits this one even if it is quoted
      have htail := ih (by simp) fun u hu => hwords u (by simp [hu])
      have hspace : DelimitsWords (' ' :: ((" ".intercalate (v :: words)).toList ++ rest)) :=
        delimitsWords_cons rfl _
      have hlexeme := Lexes.lexeme (hw.isLexeme hspace) (htail.cons_blank rfl)
      rw [String.ofList_toList] at hlexeme
      rw [String.intercalate_cons_cons]
      simpa using hlexeme

theorem isBlank_indentation (depth : Nat) :
    ∀ c ∈ (indentation depth).toList, isBlank c = true := by
  intro c hc
  rw [indentation, String.toList_ofList] at hc
  obtain rfl := List.eq_of_mem_replicate hc
  decide

/-- The printed statements are cut into the tokens that they stand for, and what follows
them into its own. -/
theorem lexes_printAll {statements : List Statement}
    (hwords : ∀ s ∈ Statement.outlineAll statements,
      s.words ≠ [] ∧ ∀ w ∈ s.words, IsWord w.toList)
    (depth : Nat) {rest : List Char} {items : List (TokenKind × String)} (h : Lexes rest items) :
    Lexes ((Statement.printAll depth statements).toList ++ rest)
      (Statement.flattenAll statements ++ items) := by
  induction statements using Statement.list_induction generalizing depth rest items with
  | nil => simpa using h
  | directive words span more ih =>
    rw [Statement.outlineAll_directive] at hwords
    obtain ⟨hne, hproper⟩ : words ≠ [] ∧ ∀ w ∈ words, IsWord w.toList :=
      hwords _ List.mem_cons_self
    have hmore := ih (fun s hs => hwords s (List.mem_cons_of_mem _ hs)) depth h
    have hline := hmore.cons_blank (c := '\n') rfl
    have hmark := hline.cons_mark (c := ';') rfl
    have hall := (lexes_words hne hproper (delimitsWords_cons rfl _) hmark).prepend
      (isBlank_indentation depth)
    simpa using hall
  | block words context body span more ihbody ih =>
    rw [Statement.outlineAll_block] at hwords
    obtain ⟨hne, hproper⟩ : words ≠ [] ∧ ∀ w ∈ words, IsWord w.toList :=
      hwords _ List.mem_cons_self
    have hbody := fun s hs => hwords s (List.mem_cons_of_mem _ (List.mem_append_left _ hs))
    have hrest := fun s hs => hwords s (List.mem_cons_of_mem _ (List.mem_append_right _ hs))
    -- from the last line to the first: the statements after the block, its closing brace,
    -- its body, its opening brace, its words
    have hmore := ih hrest depth h
    have hline := hmore.cons_blank (c := '\n') rfl
    have hclose := hline.cons_mark (c := '}') rfl
    have hinner := ihbody hbody (depth + 1) (hclose.prepend (isBlank_indentation depth))
    have hstart := hinner.cons_blank (c := '\n') rfl
    have hopen := hstart.cons_mark (c := '{') rfl
    have hspace := hopen.cons_blank (c := ' ') rfl
    have hall := (lexes_words hne hproper (delimitsWords_cons rfl _) hspace).prepend
      (isBlank_indentation depth)
    simpa using hall

/-! ### Trees that can be read back -/

/-- A text is a valid configuration when it has a tree that keeps to the rules. -/
theorem parse_eq_ok_iff {source : String} {tree : Block} :
    parse source = .ok tree ↔ parseTree source = .ok tree ∧ validate tree mainContext = .ok () := by
  unfold parse
  cases htree : parseTree source with
  | error e => simp [Except.mapError]
  | ok read =>
    cases hvalid : validate read mainContext with
    | error e =>
      constructor
      · intro h
        simp [hvalid, Except.mapError] at h
      · rintro ⟨heq, h⟩
        obtain rfl := Except.ok.inj heq
        simp [hvalid] at h
    | ok _ =>
      constructor
      · intro h
        obtain rfl : read = tree := by
          simpa [hvalid, Except.mapError] using h
        exact ⟨rfl, hvalid⟩
      · rintro ⟨heq, -⟩
        obtain rfl := Except.ok.inj heq
        simp [hvalid, Except.mapError]

/-- No tree stands for a comment. -/
theorem flattenAll_ne_comment (statements : List Statement) :
    ∀ item ∈ Statement.flattenAll statements, item.1 ≠ .comment := by
  induction statements using Statement.list_induction with
  | nil => simp
  | directive words span rest ih =>
    rw [Statement.flattenAll_directive]
    simp only [List.forall_mem_append, List.forall_mem_cons, List.forall_mem_map]
    exact ⟨by simp, by simp, ih⟩
  | block words context body span rest ihbody ih =>
    rw [Statement.flattenAll_block]
    simp only [List.forall_mem_append, List.forall_mem_cons, List.forall_mem_map]
    exact ⟨by simp, by simp, ihbody, by simp, ih⟩

/-- Tokens that read as those of a tree have no comments among them. -/
theorem significant_of_map_item {tokens : List Token} {statements : List Statement}
    (h : tokens.map Token.item = Statement.flattenAll statements) : significant tokens = tokens := by
  refine List.filter_eq_self.mpr fun t ht => ?_
  have hitem : t.item ∈ Statement.flattenAll statements := h ▸ List.mem_map_of_mem ht
  have hkind : t.kind ≠ .comment := flattenAll_ne_comment _ _ hitem
  simpa using hkind

/-- The canonical text of a well-formed tree of proper words is read as that tree. -/
theorem exists_parseTree_print {tree : Block} (hwell : tree.WellFormed)
    (hlexable : tree.Lexable) :
    ∃ parsed, parseTree tree.print = .ok parsed ∧ parsed.agrees tree = true := by
  have hwords := fun s hs => And.intro (hwell.named s hs) (hlexable s hs)
  obtain ⟨tokens, hcut, hitems⟩ := lexes_printAll hwords 0 lexes_nil 0
  rw [List.append_nil] at hcut hitems
  have htokens : tokenize tree.print = .ok tokens := tokenize_of_cut hcut
  refine exists_parseTree_of_items hwell htokens ?_
  rw [significant_of_map_item hitems]
  exact hitems

/-- **Canonical text is read back, and nothing else is.** The text of a tree is read as that
tree, up to places, exactly when the tree is well formed and its words are words that a
text can hold. Every tree that is read from a text is of that kind: its canonical text is
read again as the same tree, with the same canonical text, whether or not the rules are
checked. -/
theorem parseTree_print_iff :
    (∀ tree : Block, (∃ parsed, parseTree tree.print = .ok parsed ∧ parsed.agrees tree = true) ↔
      tree.WellFormed ∧ tree.Lexable) ∧
    (∀ source tree, parseTree source = .ok tree → ∃ again, parseTree tree.print = .ok again ∧
      again.agrees tree = true ∧ again.print = tree.print) ∧
    (∀ source tree, parse source = .ok tree → ∃ again, parse tree.print = .ok again ∧
      again.agrees tree = true ∧ again.print = tree.print) := by
  have hread : ∀ source tree, parseTree source = .ok tree → ∃ again,
      parseTree tree.print = .ok again ∧ again.agrees tree = true ∧ again.print = tree.print := by
    intro source tree h
    obtain ⟨hwell, hlexable⟩ := wellFormed_of_parseTree h
    obtain ⟨again, hagain, hagrees⟩ := exists_parseTree_print hwell hlexable
    exact ⟨again, hagain, hagrees, Block.print_eq_of_agrees hagrees⟩
  refine ⟨fun tree => ⟨?_, fun h => exists_parseTree_print h.1 h.2⟩, hread, ?_⟩
  · rintro ⟨parsed, hparsed, hagrees⟩
    obtain ⟨hwell, hlexable⟩ := wellFormed_of_parseTree hparsed
    exact ⟨hwell.of_agrees hagrees, hlexable.of_agrees hagrees⟩
  · intro source tree h
    obtain ⟨htree, hvalid⟩ := parse_eq_ok_iff.mp h
    obtain ⟨again, hagain, hagrees, hprint⟩ := hread source tree htree
    have hvalid' := validate_of_agrees (Block.agrees_comm hagrees) hvalid
    exact ⟨again, parse_eq_ok_iff.mpr ⟨hagain, hvalid'⟩, hagrees, hprint⟩

end Waymark.Config
