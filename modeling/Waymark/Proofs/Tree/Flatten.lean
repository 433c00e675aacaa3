import Waymark.Proofs.Tree.Derivation

/-!
# Waymark.Proofs.Tree.Flatten

Statement trees and the tokens that they stand for, wherever those stand.

A derivation knows the place of every token. Here the places are forgotten: the tokens of
a source with a tree are the tree's own (`Derives.map_item`), the tree is well formed and
its words are proper words (`wellFormed_of_parseTree`); and tokens that read like those of
a well-formed tree derive it (`exists_derives_of_map_item`).
-/

namespace Waymark.Config

/-! ### From derivations to trees -/

/-- What a token is, wherever it stands. -/
def Token.item (t : Token) : TokenKind × String := (t.kind, t.text)

theorem map_item_words {words : List Token} (h : ∀ t ∈ words, t.kind = .word) :
    words.map Token.item = (words.map (·.text)).map (TokenKind.word, ·) := by
  rw [List.map_map]
  exact List.map_congr_left fun t ht => by simp [Token.item, h t ht]

theorem Token.WellSpelled.item_eq {t : Token} (h : t.WellSpelled) :
    (t.kind = .openBrace → t.item = (.openBrace, "\x7b")) ∧
      (t.kind = .closeBrace → t.item = (.closeBrace, "\x7d")) ∧
      (t.kind = .semicolon → t.item = (.semicolon, ";")) := by
  cases h <;> simp_all [Token.item]

/-- The tokens of some statements are those that the statements stand for. -/
theorem Derives.map_item {tokens : List Token} {statements : List Statement}
    (h : Derives tokens statements) (hspelled : ∀ t ∈ tokens, t.WellSpelled) :
    tokens.map Token.item = Statement.flattenAll statements := by
  induction h with
  | nil => simp
  | @directive words mark rest statements hwords hmark _ ih =>
    have hitem := (hspelled mark (by simp)).item_eq.2.2 hmark
    have hrest := ih fun t ht => hspelled t (by simp [ht])
    rw [Statement.flattenAll_directive, List.map_append, List.map_cons,
      map_item_words hwords.2, hitem, hrest]
  | @block words opener inner body closer rest statements hwords hopener _ hcloser _ ihinner ih =>
    have hopen := (hspelled opener (by simp)).item_eq.1 hopener
    have hclose := (hspelled closer (by simp)).item_eq.2.1 hcloser
    have hinner := ihinner fun t ht => hspelled t (by simp [ht])
    have hrest := ih fun t ht => hspelled t (by simp [ht])
    rw [Statement.flattenAll_block, List.map_append, List.map_cons, List.map_append,
      List.map_cons, map_item_words hwords.2, hopen, hinner, hclose, hrest]

/-- The words of a statement, at any depth, are the texts of a phrase of its tokens, and
the first of them is the context of its block. -/
theorem Derives.exists_phrase {tokens : List Token} {statements : List Statement}
    (h : Derives tokens statements) : ∀ s ∈ Statement.outlineAll statements,
      ∃ phrase, IsPhrase phrase ∧ (∀ t ∈ phrase, t ∈ tokens) ∧
        s.words = phrase.map (·.text) ∧ ∀ child ∈ s.block?, child.context = s.words.headD "" := by
  induction h with
  | nil => simp
  | @directive words mark rest statements hwords _ _ ih =>
    rw [Statement.outlineAll_directive]
    intro s hs
    rcases List.mem_cons.mp hs with rfl | hs
    · exact ⟨words, hwords, by simp_all, rfl, by simp [Statement.block?]⟩
    · obtain ⟨phrase, hphrase, hmem, hrest⟩ := ih s hs
      exact ⟨phrase, hphrase, fun t ht => by simp [hmem t ht], hrest⟩
  | @block words opener inner body closer rest statements hwords _ _ _ _ ihinner ih =>
    rw [Statement.outlineAll_block]
    intro s hs
    rcases List.mem_cons.mp hs with rfl | hs
    · exact ⟨words, hwords, by simp_all, rfl, by simp [Statement.block?, Statement.words]⟩
    · rcases List.mem_append.mp hs with hs | hs
      · obtain ⟨phrase, hphrase, hmem, hrest⟩ := ihinner s hs
        exact ⟨phrase, hphrase, fun t ht => by simp [hmem t ht], hrest⟩
      · obtain ⟨phrase, hphrase, hmem, hrest⟩ := ih s hs
        exact ⟨phrase, hphrase, fun t ht => by simp [hmem t ht], hrest⟩

/-- In what the grammar derives, every statement has a word and every block bears the
name of its statement. -/
theorem Derives.named {tokens : List Token} {statements : List Statement}
    (h : Derives tokens statements) : ∀ s ∈ Statement.outlineAll statements,
      s.words ≠ [] ∧ ∀ child ∈ s.block?, s.words.head? = some child.context := by
  intro s hs
  obtain ⟨phrase, hphrase, -, hwords, hcontext⟩ := h.exists_phrase s hs
  obtain ⟨t, more, rfl⟩ := List.exists_cons_of_ne_nil hphrase.1
  rw [hwords] at hcontext ⊢
  exact ⟨by simp, fun child hchild => by simp [hcontext child hchild]⟩

/-- Every word of the tree is one that a text can hold. -/
def Block.Lexable (b : Block) : Prop := ∀ s ∈ b.outline, ∀ w ∈ s.words, IsWord w.toList

theorem Block.Lexable.of_agrees {a b : Block} (h : a.agrees b = true) (ha : a.Lexable) :
    b.Lexable :=
  Block.forall_outline_of_agrees (p := fun s => ∀ w ∈ s.words, IsWord w.toList) (by simp) h ha

/-- The words of a tree are words of its text. -/
theorem Derives.lexable {tokens : List Token} {statements : List Statement}
    (h : Derives tokens statements) (hspelled : ∀ t ∈ tokens, t.WellSpelled) :
    ∀ s ∈ Statement.outlineAll statements, ∀ w ∈ s.words, IsWord w.toList := by
  intro s hs w hw
  obtain ⟨phrase, hphrase, hmem, hwords, -⟩ := h.exists_phrase s hs
  rw [hwords] at hw
  obtain ⟨t, ht, rfl⟩ := List.mem_map.mp hw
  have hkind := hphrase.2 t ht
  cases hspelled t (hmem t ht) <;> simp_all

/-- What is read from a text is a well-formed tree of proper words. -/
theorem wellFormed_of_parseTree {source : String} {tree : Block}
    (h : parseTree source = .ok tree) : tree.WellFormed ∧ tree.Lexable := by
  obtain ⟨tokens, htokens, hderives, hne, hcontext⟩ := parseTree_eq_ok_iff.mp h
  have hspelled := (cut_of_tokenize htokens).wellSpelled
  have hnamed := hderives.named
  refine ⟨⟨hcontext, hne, fun s hs => (hnamed s hs).1, fun s hs => (hnamed s hs).2⟩, ?_⟩
  exact hderives.lexable fun t ht => hspelled t (List.mem_filter.mp ht).1

/-! ### From trees to derivations -/

/-- Tokens that read as words, a mark and more split accordingly. -/
theorem split_of_map_item {tokens : List Token} {words : List String} {mark : TokenKind × String}
    {more : List (TokenKind × String)}
    (h : tokens.map Token.item = words.map (TokenKind.word, ·) ++ mark :: more) :
    ∃ phrase token rest, tokens = phrase ++ token :: rest ∧ (∀ t ∈ phrase, t.kind = .word) ∧
      phrase.map (·.text) = words ∧ token.kind = mark.1 ∧ rest.map Token.item = more := by
  obtain ⟨phrase, others, rfl, hphrase, hothers⟩ := List.map_eq_append_iff.mp h
  obtain ⟨token, rest, rfl, htoken, hrest⟩ := List.map_eq_cons_iff.mp hothers
  refine ⟨phrase, token, rest, rfl, ?_, ?_, by rw [← htoken]; rfl, hrest⟩
  · intro t ht
    have hmem : t.item ∈ words.map (TokenKind.word, ·) := hphrase ▸ List.mem_map_of_mem ht
    obtain ⟨word, -, hword⟩ := List.mem_map.mp hmem
    exact (congrArg Prod.fst hword).symm
  · have htexts := congrArg (List.map Prod.snd) hphrase
    simpa [Token.item, Function.comp_def] using htexts

/-- Tokens that read as some statements derive them, but for the places. -/
theorem exists_derives_of_map_item {tokens : List Token} {statements : List Statement}
    {more : List (TokenKind × String)}
    (hnamed : ∀ s ∈ Statement.outlineAll statements,
      s.words ≠ [] ∧ ∀ child ∈ s.block?, s.words.head? = some child.context)
    (h : tokens.map Token.item = Statement.flattenAll statements ++ more) :
    ∃ front back read, tokens = front ++ back ∧ back.map Token.item = more ∧
      Derives front read ∧ Statement.bareAll read = Statement.bareAll statements := by
  -- `more` is what stands after the statements: a body ends before its closing brace
  induction statements using Statement.list_induction generalizing tokens more with
  | nil => exact ⟨[], tokens, [], rfl, by simpa using h, .nil, rfl⟩
  | directive words span rest ih =>
    rw [Statement.flattenAll_directive, List.append_assoc, List.cons_append] at h
    rw [Statement.outlineAll_directive] at hnamed
    obtain ⟨phrase, mark, tail, rfl, hkinds, rfl, hmark, htail⟩ := split_of_map_item h
    obtain ⟨front, back, read, rfl, hback, hderives, hbare⟩ :=
      ih (fun s hs => hnamed s (List.mem_cons_of_mem _ hs)) htail
    have hphrase : IsPhrase phrase := by
      refine ⟨?_, hkinds⟩
      rintro rfl
      exact (hnamed _ List.mem_cons_self).1 rfl
    refine ⟨phrase ++ mark :: front, back, _, by simp, hback, .directive hphrase hmark hderives, ?_⟩
    rw [Statement.bareAll_directive, Statement.bareAll_directive, hbare]
  | block words context body span rest ihbody ih =>
    rw [Statement.flattenAll_block] at h
    simp only [List.append_assoc, List.cons_append] at h
    rw [Statement.outlineAll_block] at hnamed
    have hbody := fun s hs => hnamed s (List.mem_cons_of_mem _ (List.mem_append_left _ hs))
    have hrest := fun s hs => hnamed s (List.mem_cons_of_mem _ (List.mem_append_right _ hs))
    obtain ⟨phrase, opener, tail, rfl, hkinds, rfl, hopener, htail⟩ := split_of_map_item h
    obtain ⟨inner, others, readBody, rfl, hothers, hinner, hbareBody⟩ := ihbody hbody htail
    obtain ⟨closer, last, rfl, hcloser, hlast⟩ := List.map_eq_cons_iff.mp hothers
    obtain ⟨front, back, read, rfl, hback, hderives, hbare⟩ := ih hrest hlast
    obtain ⟨hwords, hcontext⟩ := hnamed _ List.mem_cons_self
    have hphrase : IsPhrase phrase := by
      refine ⟨?_, hkinds⟩
      rintro rfl
      exact hwords rfl
    refine ⟨phrase ++ opener :: (inner ++ closer :: front), back, _, by simp, hback,
      .block hphrase hopener hinner (congrArg Prod.fst hcloser) hderives, ?_⟩
    have hname : (phrase.map (·.text)).headD "" = context := by
      have hhead : (phrase.map (·.text)).head? = some context := hcontext ⟨context, body⟩ rfl
      rw [List.headD_eq_head?_getD, hhead]
      rfl
    rw [Statement.bareAll_block, Statement.bareAll_block, hbareBody, hbare, hname]

/-! ### The reader without places -/

/-- The tokens of a source that has a tree are those that the tree stands for. -/
theorem exists_items_of_parseTree {source : String} {tree : Block}
    (h : parseTree source = .ok tree) :
    ∃ tokens, tokenize source = .ok tokens ∧
      (significant tokens).map Token.item = tree.flatten := by
  obtain ⟨tokens, htokens, hderives, -, -⟩ := parseTree_eq_ok_iff.mp h
  have hspelled := (cut_of_tokenize htokens).wellSpelled
  exact ⟨tokens, htokens, hderives.map_item fun t ht => hspelled t (List.mem_filter.mp ht).1⟩

/-- A source whose tokens are those that a well-formed tree stands for has that tree. -/
theorem exists_parseTree_of_items {source : String} {tree : Block} {tokens : List Token}
    (hwell : tree.WellFormed) (htokens : tokenize source = .ok tokens)
    (hitems : (significant tokens).map Token.item = tree.flatten) :
    ∃ parsed, parseTree source = .ok parsed ∧ parsed.agrees tree = true := by
  have hnamed := fun s hs => And.intro (hwell.named s hs) (hwell.contexts s hs)
  have hflatten : (significant tokens).map Token.item =
      Statement.flattenAll tree.statements ++ [] := by
    rw [hitems, List.append_nil]
    rfl
  obtain ⟨front, back, read, hsplit, hback, hderives, hbare⟩ :=
    exists_derives_of_map_item hnamed hflatten
  obtain rfl := List.map_eq_nil_iff.mp hback
  rw [List.append_nil] at hsplit
  have hagrees : Block.agrees ⟨mainContext, read⟩ tree = true :=
    Block.agrees_iff.mpr ⟨hwell.context.symm, hbare⟩
  refine ⟨⟨mainContext, read⟩, ?_, hagrees⟩
  refine parseTree_eq_ok_iff.mpr ⟨tokens, htokens, hsplit ▸ hderives, ?_, rfl⟩
  rintro (rfl : read = [])
  exact hwell.ne_nil (Statement.bareAll_eq_nil_iff.mp hbare.symm)

/-- **The reader accepts exactly the texts of trees.** A source has a tree, up to places,
exactly when the tree is well formed and the tokens of the source, comments left out, are
those that the tree stands for. -/
theorem exists_parseTree_agrees_iff (source : String) (tree : Block) :
    (∃ parsed, parseTree source = .ok parsed ∧ parsed.agrees tree = true) ↔
      (∃ tokens, tokenize source = .ok tokens ∧
        (significant tokens).map Token.item = tree.flatten) ∧ tree.WellFormed := by
  constructor
  · rintro ⟨parsed, hparsed, hagrees⟩
    obtain ⟨tokens, htokens, hitems⟩ := exists_items_of_parseTree hparsed
    obtain ⟨hwell, -⟩ := wellFormed_of_parseTree hparsed
    exact ⟨⟨tokens, htokens, hitems.trans (Block.flatten_eq_of_agrees hagrees)⟩,
      hwell.of_agrees hagrees⟩
  · rintro ⟨⟨tokens, htokens, hitems⟩, hwell⟩
    exact exists_parseTree_of_items hwell htokens hitems

end Waymark.Config
