import Mathlib
import Waymark.Proofs.Tree.Order
import Waymark.Proofs.Tree.Rebase

/-!
# Waymark.Proofs.Tree.Extent

What stands at the place of a statement: its own text.

A statement of a tree, at any depth, has a stretch of the tokens for itself, from its first word
to its semicolon or closing brace (`Derives.exists_own`). The tokens of a text stand apart from
each other (`Cut.apart`), so the span of the statement goes from the first to the last of them,
and by `Waymark.Proofs.Token.Slice` the text there is cut into them again. Read by itself it is
that statement and no other, with its places counted from where it begins.
-/

namespace Waymark.Config

/-! ### Tokens that stand apart -/

/-- Tokens that are not empty and stand one after the other. -/
structure Apart (tokens : List Token) : Prop where
  /-- None is empty. -/
  start_lt_stop : ∀ t ∈ tokens, t.span.start < t.span.stop
  /-- Each ends before the next one begins. -/
  pairwise : tokens.Pairwise fun a b => a.span.stop ≤ b.span.start

theorem Apart.sublist {tokens others : List Token} (h : Apart tokens)
    (hsub : others.Sublist tokens) : Apart others :=
  ⟨fun t ht => h.start_lt_stop t (hsub.subset ht), h.pairwise.sublist hsub⟩

theorem Apart.first_le {t u : Token} {tokens : List Token} (h : Apart (t :: tokens))
    (hu : u ∈ tokens) : t.span.stop ≤ u.span.start :=
  (List.pairwise_cons.mp h.pairwise).1 u hu

theorem Apart.stop_le_start {tokens others : List Token} (h : Apart (tokens ++ others))
    {t u : Token} (ht : t ∈ tokens) (hu : u ∈ others) : t.span.stop ≤ u.span.start :=
  (List.pairwise_append.mp h.pairwise).2.2 t ht u hu

theorem Apart.significant {tokens : List Token} (h : Apart tokens) :
    Apart (significant tokens) :=
  h.sublist List.filter_sublist

/-- The tokens of a text stand apart. -/
theorem Cut.apart {offset : Nat} {cs : List Char} {tokens : List Token}
    (h : Cut offset cs tokens) : Apart tokens := by
  induction h with
  | blank _ => exact ⟨by simp, .nil⟩
  | @token offset gap kind text rest tokens _ hlexeme hrest ih =>
    obtain ⟨c, tail, rfl, -⟩ := hlexeme.head_not_blank
    have hpos := byteLength_cons_pos c tail
    refine ⟨List.forall_mem_cons.mpr ⟨?_, ih.start_lt_stop⟩, .cons ?_ ih.pairwise⟩
    · show offset + byteLength gap < offset + byteLength gap + byteLength (c :: tail)
      omega
    · exact fun t ht => hrest.offset_le t ht

/-- The range from one place to a later one. -/
theorem cover_of_stop_le {a b : Span} (ha : a.start ≤ a.stop) (hle : a.stop ≤ b.start)
    (hb : b.start ≤ b.stop) : a.cover b = ⟨a.start, b.stop⟩ := by
  rw [Span.cover, Nat.min_eq_left (by omega), Nat.max_eq_right (by omega)]

/-- The range from one token to a later one. -/
theorem Apart.coverTo_eq {t u : Token} {words : List Token} (h : Apart (t :: (words ++ [u]))) :
    coverTo (t :: words) u.span = ⟨t.span.start, u.span.stop⟩ := by
  have hu := h.start_lt_stop u (by simp)
  induction words generalizing t with
  | nil =>
    have ht := h.start_lt_stop t (by simp)
    have hle := h.first_le (u := u) (by simp)
    show t.span.cover u.span = _
    exact cover_of_stop_le (by omega) hle (by omega)
  | cons w words ih =>
    have hrest : Apart (w :: (words ++ [u])) := h.sublist (List.sublist_cons_self _ _)
    have ht := h.start_lt_stop t (by simp)
    have hw := hrest.start_lt_stop w (by simp)
    have hlast := hrest.first_le (u := u) (by simp)
    have hle := h.first_le (u := w) (by simp)
    show t.span.cover (coverTo (w :: words) u.span) = _
    rw [ih hrest]
    exact cover_of_stop_le (by omega) hle (by show w.span.start ≤ u.span.stop; omega)

/-! ### The tokens of one statement -/

/-- The tokens of one statement: its first word, those after it, and its semicolon or closing
brace. -/
inductive Forms : Token → List Token → Token → Statement → Prop where
  /-- A directive. -/
  | directive {t words mark} : IsPhrase (t :: words) → mark.kind = .semicolon →
      Forms t words mark
        (.directive ((t :: words).map (·.text)) (coverTo (t :: words) mark.span))
  /-- A block. -/
  | block {t words opener inner body closer} : IsPhrase (t :: words) →
      opener.kind = .openBrace → Derives inner body → closer.kind = .closeBrace →
      Forms t (words ++ opener :: inner) closer
        (.block ((t :: words).map (·.text)) t.text body
          ((coverTo (t :: words) opener.span).cover closer.span))

namespace Forms

variable {t u : Token} {middle : List Token} {s : Statement}

theorem derives (h : Forms t middle u s) : Derives (t :: (middle ++ [u])) [s] := by
  cases h with
  | directive hwords hmark => exact .directive hwords hmark .nil
  | block hwords hopener hinner hcloser =>
    have hderives := Derives.block hwords hopener hinner hcloser .nil
    simpa using hderives

/-- A statement takes up the range from its first to its last token. -/
theorem span_eq (h : Forms t middle u s) (hapart : Apart (t :: (middle ++ [u]))) :
    s.span = ⟨t.span.start, u.span.stop⟩ := by
  cases h with
  | directive _ _ => exact hapart.coverTo_eq
  | @block words opener inner _ _ _ _ _ _ =>
    rw [List.append_assoc, List.cons_append] at hapart
    have hopening : (t :: (words ++ [opener])).Sublist
        (t :: (words ++ opener :: (inner ++ [u]))) := by simp
    have hclosing : (opener :: (inner ++ [u])).Sublist
        (t :: (words ++ opener :: (inner ++ [u]))) :=
      (List.sublist_append_right _ _).trans (List.sublist_cons_self _ _)
    have ht := hapart.start_lt_stop t (by simp)
    have ho := hapart.start_lt_stop opener (by simp)
    have hu := hapart.start_lt_stop u (by simp)
    have hto := hapart.first_le (u := opener) (by simp)
    have hou := (hapart.sublist hclosing).first_le (u := u) (by simp)
    show (coverTo (t :: words) opener.span).cover u.span = _
    rw [(hapart.sublist hopening).coverTo_eq]
    exact cover_of_stop_le (by show t.span.start ≤ opener.span.stop; omega) hou (by omega)

theorem name_eq (h : Forms t middle u s) : s.words.head? = some t.text := by
  cases h with
  | directive _ _ => rfl
  | block _ _ _ _ => rfl

theorem first_kind (h : Forms t middle u s) : t.kind = .word := by
  cases h with
  | directive hwords _ => exact hwords.2 t (by simp)
  | block hwords _ _ _ => exact hwords.2 t (by simp)

theorem last_kind (h : Forms t middle u s) :
    u.kind = if s.isBlock then .closeBrace else .semicolon := by
  cases h with
  | directive _ hmark => exact hmark
  | block _ _ _ hcloser => exact hcloser

end Forms

/-- **Every statement has tokens of its own**, at any depth: a stretch of those of the text. -/
theorem Derives.exists_own {tokens : List Token} {statements : List Statement}
    (h : Derives tokens statements) : ∀ s ∈ Statement.outlineAll statements,
      ∃ front t middle u back, tokens = front ++ t :: (middle ++ u :: back) ∧
        Forms t middle u s := by
  induction h with
  | nil => simp
  | @directive words mark rest statements hwords hmark _ ih =>
    rw [Statement.outlineAll_directive]
    intro s hs
    rcases List.mem_cons.mp hs with rfl | hs
    · obtain ⟨t, words, rfl⟩ := List.exists_cons_of_ne_nil hwords.1
      exact ⟨[], t, words, mark, rest, rfl, .directive hwords hmark⟩
    · obtain ⟨front, t, middle, u, back, rfl, hforms⟩ := ih s hs
      exact ⟨words ++ mark :: front, t, middle, u, back, by simp, hforms⟩
  | @block words opener inner body closer rest statements hwords hopener hinner hcloser _ ihinner
      ih =>
    rw [Statement.outlineAll_block]
    intro s hs
    rcases List.mem_cons.mp hs with rfl | hs
    · obtain ⟨t, words, rfl⟩ := List.exists_cons_of_ne_nil hwords.1
      exact ⟨[], t, words ++ opener :: inner, closer, rest, by simp,
        .block hwords hopener hinner hcloser⟩
    · rcases List.mem_append.mp hs with hs | hs
      · obtain ⟨front, t, middle, u, back, rfl, hforms⟩ := ihinner s hs
        exact ⟨words ++ opener :: front, t, middle, u, back ++ closer :: rest, by simp, hforms⟩
      · obtain ⟨front, t, middle, u, back, rfl, hforms⟩ := ih s hs
        exact ⟨words ++ opener :: (inner ++ closer :: front), t, middle, u, back, by simp, hforms⟩

theorem Apart.own {front middle back : List Token} {t u : Token}
    (h : Apart (front ++ t :: (middle ++ u :: back))) : Apart (t :: (middle ++ [u])) := by
  refine h.sublist (List.Sublist.trans ?_ (List.sublist_append_right front _))
  exact ((List.singleton_sublist.mpr List.mem_cons_self).append_left middle).cons_cons t

/-! ### Statements in a row -/

/-- Each of some statements ends before the next one begins. -/
def InRow (statements : List Statement) : Prop :=
  statements.Pairwise fun s t => s.span.stop ≤ t.span.start

namespace Derives

variable {tokens : List Token} {statements : List Statement}

/-- Every statement begins and ends where tokens of the text do. -/
theorem exists_span_eq (h : Derives tokens statements) (hapart : Apart tokens) :
    ∀ s ∈ Statement.outlineAll statements, ∃ t ∈ tokens, ∃ u ∈ tokens,
      s.span = ⟨t.span.start, u.span.stop⟩ := by
  intro s hs
  obtain ⟨front, t, middle, u, back, rfl, hforms⟩ := h.exists_own s hs
  exact ⟨t, by simp, u, by simp, hforms.span_eq hapart.own⟩

/-- Statements of separate tokens stand apart, and so do those inside them. -/
theorem stop_le_start {own : List Token} {others : List Statement} (hown : Derives own others)
    (h : Derives tokens statements) (hapart : Apart (own ++ tokens)) :
    ∀ s ∈ Statement.outlineAll others, ∀ next ∈ Statement.outlineAll statements,
      s.span.stop ≤ next.span.start := by
  intro s hs next hnext
  have hownApart := hapart.sublist (List.sublist_append_left own tokens)
  have hrestApart := hapart.sublist (List.sublist_append_right own tokens)
  obtain ⟨_, _, u, hu, hspan⟩ := hown.exists_span_eq hownApart s hs
  obtain ⟨t, ht, _, _, hnextSpan⟩ := h.exists_span_eq hrestApart next hnext
  rw [hspan, hnextSpan]
  exact hapart.stop_le_start hu ht

theorem inRow_cons {own : List Token} {s : Statement} (hown : Derives own [s])
    (h : Derives tokens statements) (hapart : Apart (own ++ tokens)) (hrow : InRow statements) :
    InRow (s :: statements) := by
  refine .cons (fun next hnext => ?_) hrow
  exact hown.stop_le_start h hapart s (Statement.mem_outlineAll List.mem_cons_self) next
    (Statement.mem_outlineAll hnext)

/-- The statements of one block stand in a row. -/
theorem inRow (h : Derives tokens statements) (hapart : Apart tokens) : InRow statements := by
  induction h with
  | nil => exact .nil
  | @directive words mark rest statements hwords hmark hrest ih =>
    have hown := Derives.directive hwords hmark .nil
    have hsplit : words ++ mark :: rest = (words ++ [mark]) ++ rest := by simp
    rw [hsplit] at hapart
    exact inRow_cons hown hrest hapart (ih (hapart.sublist (List.sublist_append_right _ _)))
  | @block words opener inner body closer rest statements hwords hopener hinner hcloser hrest _
      ih =>
    have hown := Derives.block hwords hopener hinner hcloser .nil
    have hsplit : words ++ opener :: (inner ++ closer :: rest) =
        (words ++ opener :: (inner ++ [closer])) ++ rest := by simp
    rw [hsplit] at hapart
    exact inRow_cons hown hrest hapart (ih (hapart.sublist (List.sublist_append_right _ _)))

end Derives

/-! ### The text of a statement -/

theorem significant_cons {t : Token} (h : t.kind ≠ .comment) (tokens : List Token) :
    significant (t :: tokens) = t :: significant tokens := by
  simp [significant, h]

/-- A token that is no comment takes a text's tokens apart as it does those without comments. -/
theorem exists_of_significant_eq {tokens front back : List Token} {t : Token}
    (h : significant tokens = front ++ t :: back) :
    ∃ before after, tokens = before ++ t :: after ∧ significant before = front ∧
      significant after = back := by
  obtain ⟨before, rest, rfl, hbefore, hrest⟩ := List.filter_eq_append_iff.mp h
  obtain ⟨comments, after, rfl, hcomments, -, hafter⟩ := List.filter_eq_cons_iff.mp hrest
  refine ⟨before ++ comments, after, by simp, ?_, hafter⟩
  have hnone : significant comments = [] := List.filter_eq_nil_iff.mpr hcomments
  rw [significant_append, hnone, List.append_nil]
  exact hbefore

/-- A statement in a source: its text stands at its span, begins with its first word and ends
with its semicolon or closing brace, and read by itself it is the statement alone, with all
places counted from where it begins. -/
structure Statement.StandsIn (source : List Char) (s : Statement) (text : List Char) : Prop where
  /-- The text is at the span. -/
  slice : IsSlice source s.span text
  /-- It begins with the first word. -/
  first : ∃ word ∈ s.words.head?, word.toList <+: text
  /-- It ends with the mark that ends the statement. -/
  last : text.getLast? = some (if s.isBlock then '}' else ';')
  /-- No place inside the statement lies outside the span. -/
  inside : ∀ inner ∈ s.outline, s.span.start ≤ inner.span.start ∧ inner.span.stop ≤ s.span.stop
  /-- It has the statement for its tree. -/
  reads : ∃ again, parseTree (String.ofList text) = .ok ⟨mainContext, [again]⟩ ∧
    again.agrees s = true ∧ again = s.rebase s.span.start

/-- A block in a source: its words, its braces, and its statements between them. -/
structure Statement.HasBraces (source : List Char) (s : Statement) (body : List Statement)
    (opening closing : Span) : Prop where
  /-- Before the opening brace stand the words of the statement. -/
  head : ∃ text tokens, IsSlice source ⟨s.span.start, opening.start⟩ text ∧
    tokenize (String.ofList text) = .ok tokens ∧
    (significant tokens).map Token.item = s.words.map (TokenKind.word, ·)
  /-- The opening brace. -/
  opens : IsSlice source opening ['{']
  /-- The closing brace. -/
  closes : IsSlice source closing ['}']
  /-- The closing brace ends the statement. -/
  stop_eq : closing.stop = s.span.stop
  /-- The statements of the block stand between the braces. -/
  between : ∀ child ∈ body, opening.stop ≤ child.span.start ∧ child.span.stop ≤ closing.start

theorem Token.WellSpelled.toList_text_eq {t : Token} (h : t.WellSpelled) :
    (t.kind = .openBrace → t.text.toList = ['{']) ∧
      (t.kind = .closeBrace → t.text.toList = ['}']) ∧
      (t.kind = .semicolon → t.text.toList = [';']) := by
  cases h <;> simp_all

theorem Cut.isSlice_openBrace {cs : List Char} {tokens : List Token} {t : Token}
    (h : Cut 0 cs tokens) (ht : t ∈ tokens) (hkind : t.kind = .openBrace) :
    IsSlice cs t.span ['{'] := by
  rw [← (h.wellSpelled t ht).toList_text_eq.1 hkind]
  exact h.isSlice ht

theorem Cut.isSlice_closeBrace {cs : List Char} {tokens : List Token} {t : Token}
    (h : Cut 0 cs tokens) (ht : t ∈ tokens) (hkind : t.kind = .closeBrace) :
    IsSlice cs t.span ['}'] := by
  rw [← (h.wellSpelled t ht).toList_text_eq.2.1 hkind]
  exact h.isSlice ht

/-- The text from the first of some words to what follows the last has those words for tokens,
and perhaps comments. -/
theorem Cut.exists_words {cs : List Char} {front middle back words : List Token} {t u : Token}
    (h : Cut 0 cs (front ++ t :: (middle ++ u :: back))) (hwords : IsPhrase (t :: words))
    (hmiddle : significant middle = words) :
    ∃ text tokens, IsSlice cs ⟨t.span.start, u.span.start⟩ text ∧
      tokenize (String.ofList text) = .ok tokens ∧
      (significant tokens).map Token.item =
        ((t :: words).map (·.text)).map (TokenKind.word, ·) := by
  obtain ⟨text, hslice, hpart⟩ := h.exists_before
  refine ⟨text, _, hslice, hpart.tokenize_part, ?_⟩
  have ht : t.kind = .word := hwords.2 t (by simp)
  rw [significant_rebase, map_item_rebase, significant_cons (by simp [ht]), hmiddle]
  exact map_item_words hwords.2

namespace Forms

variable {cs : List Char} {tokens front middle back : List Token} {t u : Token} {s : Statement}

theorem significant_eq (h : Forms t middle u s) {between : List Token}
    (hbetween : significant between = middle) :
    significant (t :: (between ++ [u])) = t :: (middle ++ [u]) := by
  have ht : t.kind ≠ .comment := by rw [h.first_kind]; decide
  have hu : u.kind ≠ .comment := by rw [h.last_kind]; split <;> decide
  rw [significant_cons ht, significant_append, hbetween, significant_cons hu]
  rfl

/-- The last token of a statement is the mark that ends it. -/
theorem toList_text_last (h : Forms t middle u s) (hspelled : u.WellSpelled) :
    u.text.toList = [if s.isBlock then '}' else ';'] := by
  have hkind := h.last_kind
  cases hblock : s.isBlock with
  | true => exact hspelled.toList_text_eq.2.1 (by simpa [hblock] using hkind)
  | false => exact hspelled.toList_text_eq.2.2 (by simpa [hblock] using hkind)

/-- The places inside a statement lie between its first and its last token. -/
theorem inside (h : Forms t middle u s) (hapart : Apart (t :: (middle ++ [u]))) :
    ∀ inner ∈ s.outline,
      s.span.start ≤ inner.span.start ∧ inner.span.stop ≤ s.span.stop := by
  intro inner hinner
  have hmem : inner ∈ Statement.outlineAll [s] := by simpa [Statement.outlineAll] using hinner
  obtain ⟨a, ha, b, hb, hspan⟩ := h.derives.exists_span_eq hapart inner hmem
  rw [h.span_eq hapart, hspan]
  constructor
  · show t.span.start ≤ a.span.start
    have ht := hapart.start_lt_stop t List.mem_cons_self
    rcases List.mem_cons.mp ha with rfl | ha
    · exact Nat.le_refl _
    · have hle := hapart.first_le ha
      omega
  · show b.span.stop ≤ u.span.stop
    have hu := hapart.start_lt_stop u (by simp)
    rw [← List.cons_append] at hapart hb
    rcases List.mem_append.mp hb with hb | hb
    · have hle := hapart.stop_le_start hb (u := u) (by simp)
      omega
    · rw [List.mem_singleton.mp hb]

/-- **The text of a statement is at its span**, and is read as the statement. -/
theorem exists_standsIn (h : Forms t middle u s) (hcut : Cut 0 cs tokens)
    (hown : significant tokens = front ++ t :: (middle ++ u :: back)) :
    ∃ text, s.StandsIn cs text := by
  obtain ⟨before, rest, rfl, -, hrest⟩ := exists_of_significant_eq hown
  obtain ⟨between, after, rfl, hbetween, -⟩ := exists_of_significant_eq hrest
  obtain ⟨text, hslice, hfirst, hlast, hpart⟩ := hcut.exists_between
  have hsignificant := h.significant_eq hbetween
  have hapart := hpart.apart.significant
  rw [hsignificant] at hapart
  have hspan := h.span_eq hapart
  refine ⟨text, hspan ▸ hslice, ⟨t.text, h.name_eq, hfirst⟩, ?_, h.inside hapart,
    s.rebase s.span.start, ?_, Statement.agrees_rebase _ s, rfl⟩
  · obtain ⟨start, rfl⟩ := hlast
    rw [h.toList_text_last (hcut.wellSpelled u (by simp)), List.getLast?_concat]
  · have hderives := h.derives.rebase t.span.start
    rw [← hsignificant, ← significant_rebase] at hderives
    rw [hspan]
    exact parseTree_eq_ok_iff.mpr ⟨_, hpart.tokenize_part, by simpa using hderives, by simp, rfl⟩

/-- A block stands in its own braces, with its words before them. -/
theorem hasBraces {words inner : List Token} {opener : Token} {body : List Statement}
    (hwords : IsPhrase (t :: words)) (hopener : opener.kind = .openBrace)
    (hinner : Derives inner body) (hcloser : u.kind = .closeBrace) (hcut : Cut 0 cs tokens)
    (hown : significant tokens = front ++ t :: (words ++ opener :: (inner ++ u :: back))) :
    (Statement.block ((t :: words).map (·.text)) t.text body
      ((coverTo (t :: words) opener.span).cover u.span)).HasBraces cs body opener.span u.span := by
  have hapart := hcut.apart.significant
  rw [hown] at hapart
  have hforms := Forms.block hwords hopener hinner hcloser
  have hsplit : front ++ t :: (words ++ opener :: (inner ++ u :: back)) =
      front ++ t :: ((words ++ opener :: inner) ++ u :: back) := by simp
  have hspan := hforms.span_eq (hsplit ▸ hapart).own
  obtain ⟨before, rest, rfl, -, hrest⟩ := exists_of_significant_eq hown
  obtain ⟨phrase, others, rfl, hphrase, hothers⟩ := exists_of_significant_eq hrest
  obtain ⟨between, after, rfl, -, -⟩ := exists_of_significant_eq hothers
  -- the braces and what is between them, without comments
  have hbraces : Apart (opener :: (inner ++ [u])) := by
    rw [← List.cons_append, ← List.append_assoc] at hapart
    exact hapart.own
  have hbody : Apart (inner ++ [u]) := hbraces.sublist (List.sublist_cons_self _ _)
  have hinside := hbody.sublist (List.sublist_append_left inner [u])
  refine ⟨?_, ?_, ?_, ?_, ?_⟩
  · rw [hspan]
    exact hcut.exists_words hwords hphrase
  · exact hcut.isSlice_openBrace (by simp) hopener
  · exact hcut.isSlice_closeBrace (by simp) hcloser
  · rw [hspan]
  · intro c hc
    obtain ⟨a, ha, b, hb, hchildSpan⟩ :=
      hinner.exists_span_eq hinside c (Statement.mem_outlineAll hc)
    rw [hchildSpan]
    exact ⟨hbraces.first_le (by simp [ha]), hbody.stop_le_start hb (by simp)⟩

/-- **The statements of a block stand between its braces**, in a row. -/
theorem exists_hasBraces (h : Forms t middle u s) {child : Block} (hchild : child ∈ s.block?)
    (hcut : Cut 0 cs tokens)
    (hown : significant tokens = front ++ t :: (middle ++ u :: back)) :
    InRow child.statements ∧
      ∃ opening closing, s.HasBraces cs child.statements opening closing := by
  cases h with
  | directive _ _ => cases hchild
  | @block words opener inner body _ hwords hopener hinner hcloser =>
    obtain rfl := Option.some.inj hchild
    rw [List.append_assoc, List.cons_append] at hown
    have hapart := hcut.apart.significant
    rw [hown] at hapart
    have hbetween := ((List.sublist_append_left inner (u :: back)).cons opener).trans
      (List.sublist_append_right words _)
    have hinside := hapart.sublist ((hbetween.cons t).trans (List.sublist_append_right front _))
    exact ⟨hinner.inRow hinside, opener.span, u.span,
      hasBraces hwords hopener hinner hcloser hcut hown⟩

end Forms

/-- **The span of a statement is where its own text stands.** At every depth, the text at the
span of a statement begins with its first word, ends with its semicolon or closing brace, and
read by itself is that statement alone, with all its places counted from where it begins. The
statements of a file, and of each block, stand one after the other, and those of a block between
its braces. -/
theorem standsIn_of_parseTree {source : String} {tree : Block} (h : parseTree source = .ok tree) :
    (∀ s ∈ tree.outline, ∃ text, s.StandsIn source.toList text) ∧
    InRow tree.statements ∧
    ∀ s ∈ tree.outline, ∀ child ∈ s.block?, InRow child.statements ∧
      ∃ opening closing, s.HasBraces source.toList child.statements opening closing := by
  obtain ⟨tokens, htokens, hderives, -, -⟩ := parseTree_eq_ok_iff.mp h
  have hcut := cut_of_tokenize htokens
  refine ⟨fun s hs => ?_, ?_, fun s hs child hchild => ?_⟩
  · obtain ⟨front, t, middle, u, back, hown, hforms⟩ := hderives.exists_own s hs
    exact hforms.exists_standsIn hcut hown
  · exact hderives.inRow hcut.apart.significant
  · obtain ⟨front, t, middle, u, back, hown, hforms⟩ := hderives.exists_own s hs
    exact hforms.exists_hasBraces hchild hcut hown

/-- A block after a comment, with a brace among its words and a directive inside. -/
theorem standsIn_of_commented_block :
    let inner : Statement := .directive ["c"] ⟨18, 20⟩
    let outer : Statement := .block ["b", "'y\x7d'"] "b" [inner] ⟨9, 22⟩
    let source := "a 1; # x\nb 'y\x7d' \x7b c; \x7d"
    parseTree source = .ok ⟨mainContext, [.directive ["a", "1"] ⟨0, 4⟩, outer]⟩ ∧
      (∃ text, inner.StandsIn source.toList text) ∧ (∃ text, outer.StandsIn source.toList text) ∧
      ∃ opening closing, outer.HasBraces source.toList [inner] opening closing := by
  intro inner outer source
  have htree : parseTree source = .ok ⟨mainContext, [.directive ["a", "1"] ⟨0, 4⟩, outer]⟩ := by
    cbv
  obtain ⟨htexts, -, hblocks⟩ := standsIn_of_parseTree htree
  have houtline : (⟨mainContext, [.directive ["a", "1"] ⟨0, 4⟩, outer]⟩ : Block).outline =
      [.directive ["a", "1"] ⟨0, 4⟩, outer, inner] := by
    simp [Block.outline, outer, inner]
  rw [houtline] at htexts hblocks
  obtain ⟨-, hbraces⟩ := hblocks outer (by simp) ⟨"b", [inner]⟩ rfl
  exact ⟨htree, htexts inner (by simp), htexts outer (by simp), hbraces⟩

end Waymark.Config
