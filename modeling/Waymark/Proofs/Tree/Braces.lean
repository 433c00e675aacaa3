import Waymark.Proofs.Token.Joining
import Waymark.Proofs.Tree.Extent
import Waymark.Proofs.Tree.Viable

/-!
# Waymark.Proofs.Tree.Braces

Errors about braces name the right brace.

A closing brace that closes nothing stands after a complete tree: the draft before it has no open
block, so the text before it could have ended there. In a text that ends inside blocks, closing
braces for all of them and no other number complete the tree, since each takes one block off the
stack (`closeBraces_inv`).

Which block the first of them closes is read off the completed tree. The statements of a tree
nest as their spans do (`Derives.pairwise_leads`), so a statement that goes on past the end of
the text has every other one that ends before it inside or in front of it. The block that the
draft names is the first to be completed, hence the innermost.
-/

namespace Waymark.Config

/-! ### Statements inside and after each other -/

/-- Of two statements, in the order in which a tree lists them, the second stands inside the
first, which goes on after it, or begins after the first has ended. -/
def Statement.Leads (s t : Statement) : Prop :=
  (t ∈ s.outline ∧ t.span.stop < s.span.stop) ∨ s.span.stop ≤ t.span.start

theorem Statement.mem_outline_self (s : Statement) : s ∈ s.outline := by
  cases s <;> simp [outline]

/-- **Statements nest as their spans do**, by induction over the derivation. -/
theorem Derives.pairwise_leads {tokens : List Token} {statements : List Statement}
    (h : Derives tokens statements) (hapart : Apart tokens) :
    (Statement.outlineAll statements).Pairwise Statement.Leads := by
  induction h with
  | nil => exact .nil
  | @directive words mark rest statements hwords hmark hrest ih =>
    have hown := Derives.directive hwords hmark .nil
    have hsplit : words ++ mark :: rest = (words ++ [mark]) ++ rest := by simp
    rw [hsplit] at hapart
    rw [Statement.outlineAll_directive]
    refine .cons (fun t ht => Or.inr ?_) (ih (hapart.sublist (List.sublist_append_right _ _)))
    exact hown.stop_le_start hrest hapart _ (Statement.mem_outlineAll List.mem_cons_self) t ht
  | @block words opener inner body closer rest statements hwords hopener hinner hcloser hrest
      ihinner ih =>
    have hown := Derives.block hwords hopener hinner hcloser .nil
    have hsplit : words ++ opener :: (inner ++ closer :: rest) =
        (words ++ opener :: (inner ++ [closer])) ++ rest := by simp
    rw [hsplit] at hapart
    have hrestApart := hapart.sublist (List.sublist_append_right _ rest)
    have hownApart := hapart.sublist (List.sublist_append_left _ rest)
    have hbody : Apart (inner ++ [closer]) :=
      hownApart.sublist ((List.sublist_cons_self _ _).trans (List.sublist_append_right _ _))
    have hinnerApart := hbody.sublist (List.sublist_append_left inner [closer])
    have hparts : Apart (inner ++ rest) := by
      refine hapart.sublist (List.Sublist.append_right ?_ rest)
      exact ((List.sublist_append_left inner [closer]).cons opener).trans
        (List.sublist_append_right words _)
    -- the block itself ends where its closing brace does
    obtain ⟨t, words, rfl⟩ := List.exists_cons_of_ne_nil hwords.1
    have hspan : (coverTo (t :: words) opener.span).cover closer.span =
        ⟨t.span.start, closer.span.stop⟩ :=
      (Forms.block hwords hopener hinner hcloser).span_eq (by simpa using hownApart)
    rw [Statement.outlineAll_block]
    refine .cons (fun s hs => ?_) (List.pairwise_append.mpr ⟨ihinner hinnerApart, ih hrestApart, ?_⟩)
    · rcases List.mem_append.mp hs with hs | hs
      · obtain ⟨_, _, u, hu, hinside⟩ := hinner.exists_span_eq hinnerApart s hs
        have hle := hbody.stop_le_start hu (u := closer) (by simp)
        have hlt := hbody.start_lt_stop closer (by simp)
        refine Or.inl ⟨?_, ?_⟩
        · rw [Statement.outline]
          exact List.mem_cons_of_mem _ hs
        · rw [hinside]
          show u.span.stop < ((coverTo (t :: words) opener.span).cover closer.span).stop
          rw [hspan]
          exact Nat.lt_of_le_of_lt hle hlt
      · exact Or.inr (hown.stop_le_start hrest hapart _
          (Statement.mem_outlineAll List.mem_cons_self) s hs)
    · intro s hs next hnext
      exact Or.inr (hinner.stop_le_start hrest hparts s hs next hnext)

/-! ### The two errors of the reader -/

namespace Draft

variable {d : Draft} {token : Token} {span : Span}

/-- A closing brace that closes nothing comes after a complete statement or at the start. -/
theorem push_eq_unbalancedClose (h : d.push token = .error (.unbalancedClose span)) :
    token.kind = .closeBrace ∧ token.span = span ∧ d.opened = [] ∧
      (d.previous = .semicolon ∨ d.previous = .closeBrace ∨ d.previous = .openBrace) := by
  obtain ⟨hkind, hspan, -⟩ := push_eq_error h
  simp only [List.mem_cons, List.not_mem_nil, or_false] at hkind
  rcases hkind with hkind | hkind | hkind
  · rw [push_semicolon hkind, Outcome.bind_eq_error_iff] at h
    rcases h with hexpect | ⟨_, -, hnext⟩
    · cases expect_eq_error hexpect
    · cases hnext
  · rw [push_openBrace hkind, Outcome.bind_eq_error_iff] at h
    rcases h with hexpect | ⟨_, -, hnext⟩
    · cases expect_eq_error hexpect
    · cases hnext
  · rw [push_closeBrace hkind] at h
    by_cases hp : d.previous ∈ [TokenKind.semicolon, .closeBrace, .openBrace]
    · rw [expect_of_mem hp] at h
      simp only [List.mem_cons, List.not_mem_nil, or_false] at hp
      cases hopened : d.opened with
      | nil => exact ⟨hkind, hspan.symm, rfl, hp⟩
      | cons opener opened => simp [hopened] at h
    · rw [expect_of_not_mem hp] at h
      cases h

/-- The input that ends inside a block ends after a statement, and the block is the innermost one
that is open. -/
theorem finish_eq_unclosedBlock {offset : Nat} (h : d.finish offset = .error (.unclosedBlock span)) :
    (d.previous = .semicolon ∨ d.previous = .closeBrace) ∧
      ∃ opener opened, d.opened = opener :: opened ∧ opener.opening = span := by
  unfold finish at h
  by_cases hp : d.previous ∈ [TokenKind.semicolon, .closeBrace]
  · rw [expect_of_mem hp] at h
    simp only [List.mem_cons, List.not_mem_nil, or_false] at hp
    cases hopened : d.opened with
    | nil => simp [hopened] at h
    | cons opener opened =>
      rw [hopened] at h
      obtain hspan := SyntaxError.unclosedBlock.inj (Except.error.inj h)
      exact ⟨hp, opener, opened, rfl, hspan⟩
  · rw [expect_of_not_mem hp] at h
    cases h

/-- After an opening brace a block is open. -/
theorem Reads.opened_ne_nil {outer done : List Token} (h : d.Reads outer done)
    (hprevious : d.previous = .openBrace) : d.opened ≠ [] := by
  intro hnil
  have hpending := h.pending_eq_nil (by simp [hprevious])
  have hopens := h.opens
  rw [hnil] at hopens
  cases hopens
  have hlast := h.previous
  rw [hprevious, hpending, List.nil_append, List.append_nil] at hlast
  rcases h.derives.lastKind_eq .start with ⟨rfl, -⟩ | hd | hd
  · cases hlast
  · rw [hd] at hlast
    cases hlast
  · rw [hd] at hlast
    cases hlast

end Draft

/-! ### A brace that closes nothing -/

/-- What stands before a closing brace that closes nothing is complete. -/
theorem exists_of_unbalancedClose {source : String} {span : Span}
    (h : parseTree source = .error (.unbalancedClose span)) :
    ∃ before after tree, source = before ++ "\x7d" ++ after ∧
      span = ⟨byteLength before.toList, byteLength before.toList + 1⟩ ∧
      parseTree before = .ok tree := by
  cases parseTree_eq_error_iff.mp h with
  | ending _ _ hfinish =>
    rcases Draft.finish_eq_error_cases hfinish with heq | ⟨_, _, _, heq⟩ <;> cases heq
  | @token done token more ending draft error hstream hdone hpush =>
    obtain ⟨hkind, rfl, hopened, hprevious⟩ := Draft.push_eq_unbalancedClose hpush
    obtain ⟨before, left, hsource, hcut, hleft⟩ := exists_cutBefore hstream
    obtain ⟨gap, kind, text, rest, hgap, hlexeme, rfl, rfl, -⟩ := exists_isLexeme_of_tokensFrom hleft
    obtain rfl : kind = .closeBrace := hkind
    have htext : text = ['}'] := by
      simpa using (hlexeme.wellSpelled ⟨0, 0⟩).toList_text_eq.2.1 rfl
    subst htext
    -- the blanks before the brace end the text as they end a token
    have hwhole := (hcut.replace (replaces_front gap _)).finish (.blank hgap)
    rw [List.append_nil] at hwhole
    have htokens : tokenize (String.ofList (before ++ gap)) = .ok done :=
      tokenize_of_cut (by rwa [String.toList_ofList])
    obtain ⟨outer, own, hreads, -⟩ := Draft.hasRead_start.foldlM_push hwhole.wellSpelled hdone
    have hends : draft.previous = .semicolon ∨ draft.previous = .closeBrace := by
      rcases hprevious with hp | hp | hp
      · exact Or.inl hp
      · exact Or.inr hp
      · exact absurd hopened (hreads.opened_ne_nil hp)
    refine ⟨String.ofList (before ++ gap), String.ofList rest, ⟨mainContext, draft.statements⟩,
      ?_, ?_, ?_⟩
    · rw [← String.toList_inj, hsource]
      simp
    · show (⟨0 + byteLength before + byteLength gap,
        0 + byteLength before + byteLength gap + 1⟩ : Span) = _
      rw [String.toList_ofList, byteLength_append, Nat.zero_add]
    · rw [parseTree_of_tokenize htokens, hdone]
      exact Draft.finish_eq_ok_iff.mpr ⟨hends, hopened, rfl⟩

/-! ### Blocks that are not closed -/

/-- A source with a line end and so many closing braces after it. -/
def closedBy (source : String) (depth : Nat) : String :=
  source ++ "\n" ++ String.ofList (List.replicate depth '}')

theorem cut_closedBy {source : String} {tokens : List Token} (h : Cut 0 source.toList tokens)
    (depth : Nat) :
    Cut 0 (closedBy source depth).toList
      (tokens ++ closers (byteLength source.toList + 1) depth) := by
  have htext : (closedBy source depth).toList =
      source.toList ++ '\n' :: List.replicate depth '}' := by simp [closedBy]
  rw [htext]
  refine h.join ?_
  rw [Nat.zero_add]
  exact cut_closers _ depth

/-- The statement that a closing brace makes of the innermost open block. -/
def Draft.closed (d : Draft) (opener : OpenBlock) (closing : Span) : Statement :=
  .block opener.words (opener.words.headD "") d.statements (opener.opening.cover closing)

/-- **Closing braces in a row**, by induction over them: each takes one block off the stack, and
no statement is lost. -/
theorem closeBraces_inv {braces : List Token} (hkind : ∀ t ∈ braces, t.kind = .closeBrace)
    {d d' : Draft} (h : braces.foldlM Draft.push d = .ok d') :
    d.opened.length = d'.opened.length + braces.length ∧
      ∀ s ∈ Statement.outlineAll d.statements, s ∈ Statement.outlineAll d'.statements := by
  induction braces generalizing d with
  | nil =>
    obtain rfl := Except.ok.inj h
    exact ⟨rfl, fun s hs => hs⟩
  | cons t braces ih =>
    rw [List.foldlM_cons] at h
    cases hpush : d.push t with
    | error e => simp [hpush] at h
    | ok next =>
      rw [hpush] at h
      obtain ⟨hlength, hkept⟩ := ih (fun u hu => hkind u (by simp [hu])) h
      obtain ⟨-, opener, opened, hopened, rfl⟩ :=
        (Draft.push_closeBrace_iff (hkind t (by simp))).mp hpush
      refine ⟨?_, fun s hs => hkept s ?_⟩
      · rw [hopened, List.length_cons, List.length_cons, hlength]
        rfl
      · rw [Statement.outlineAll_append, Statement.outlineAll_block, Statement.outlineAll_nil,
          List.append_nil]
        exact List.mem_append_right _ (List.mem_cons_of_mem _ hs)

section Closing

variable {source : String} {tokens : List Token} {d : Draft}

/-- A completed source is read by going on from where the reader stopped. -/
theorem exists_draft_of_closedBy (htokens : tokenize source = .ok tokens)
    (hfold : tokens.foldlM Draft.push Draft.start = .ok d) {depth : Nat} {tree : Block}
    (h : parseTree (closedBy source depth) = .ok tree) :
    ∃ d', (closers (byteLength source.toList + 1) depth).foldlM Draft.push d = .ok d' ∧
      d'.opened = [] ∧ tree = ⟨mainContext, d'.statements⟩ := by
  have hclosed := tokenize_of_cut (cut_closedBy (cut_of_tokenize htokens) depth)
  rw [parseTree_of_tokenize hclosed, List.foldlM_append, hfold, Outcome.ok_bind] at h
  cases hclose : (closers (byteLength source.toList + 1) depth).foldlM Draft.push d with
  | error e =>
    rw [hclose] at h
    cases h
  | ok d' =>
    rw [hclose] at h
    obtain ⟨-, hopened, htree⟩ := Draft.finish_eq_ok_iff.mp h
    exact ⟨d', rfl, hopened, htree⟩

/-- As many closing braces as there are open blocks complete a source, and no other number. -/
theorem exists_parseTree_closedBy_iff (htokens : tokenize source = .ok tokens)
    (hfold : tokens.foldlM Draft.push Draft.start = .ok d)
    (hprevious : d.previous = .semicolon ∨ d.previous = .closeBrace) (depth : Nat) :
    (∃ tree, parseTree (closedBy source depth) = .ok tree) ↔ depth = d.opened.length := by
  constructor
  · intro ⟨tree, h⟩
    obtain ⟨d', hclose, hopened, -⟩ := exists_draft_of_closedBy htokens hfold h
    obtain ⟨hlength, -⟩ := closeBraces_inv kind_of_mem_closers hclose
    rw [hlength, hopened, length_closers, List.length_nil, Nat.zero_add]
  · intro h
    subst h
    have hclosed := tokenize_of_cut (cut_closedBy (cut_of_tokenize htokens) d.opened.length)
    rw [parseTree_of_tokenize hclosed, List.foldlM_append, hfold]
    exact exists_finish_of_closeBraces kind_of_mem_closers hprevious (length_closers _ _) _

/-- The first closing brace completes the innermost open block, and the tree keeps it. -/
theorem closed_mem_outline (htokens : tokenize source = .ok tokens)
    (hfold : tokens.foldlM Draft.push Draft.start = .ok d) {opener : OpenBlock}
    {opened : List OpenBlock} (hopened : d.opened = opener :: opened) {depth : Nat} {tree : Block}
    (htree : parseTree (closedBy source (depth + 1)) = .ok tree) :
    d.closed opener ⟨byteLength source.toList + 1, byteLength source.toList + 2⟩ ∈
      tree.outline := by
  obtain ⟨d', hclose, -, rfl⟩ := exists_draft_of_closedBy htokens hfold htree
  rw [closers, List.foldlM_cons] at hclose
  cases hpush : d.push ⟨.closeBrace, "\x7d",
      ⟨byteLength source.toList + 1, byteLength source.toList + 1 + 1⟩⟩ with
  | error e =>
    rw [hpush] at hclose
    cases hclose
  | ok next =>
    rw [hpush] at hclose
    obtain ⟨-, opener', opened', heq, rfl⟩ := (Draft.push_closeBrace_iff rfl).mp hpush
    obtain ⟨rfl, -⟩ := List.cons.inj (hopened.symm.trans heq)
    obtain ⟨-, hkept⟩ := closeBraces_inv kind_of_mem_closers hclose
    refine hkept _ (Statement.mem_outlineAll ?_)
    exact List.mem_append_right _ List.mem_cons_self

/-- A statement of a completed source begins in the source, and ends in it or with one of the
braces after it. -/
theorem span_cases_of_closed (hcut : Cut 0 source.toList tokens) {depth : Nat}
    {statements : List Statement}
    (h : Derives (significant (tokens ++ closers (byteLength source.toList + 1) depth)) statements) :
    ∀ s ∈ Statement.outlineAll statements, s.span.start < byteLength source.toList ∧
      (s.span.stop ≤ byteLength source.toList ∨ byteLength source.toList + 2 ≤ s.span.stop) := by
  intro s hs
  obtain ⟨front, t, middle, u, back, hown, hforms⟩ := h.exists_own s hs
  have hapart := (cut_closedBy hcut depth).apart.significant
  rw [hown] at hapart
  rw [hforms.span_eq hapart.own]
  have hmem : ∀ v ∈ [t, u], v ∈ tokens ∨ v ∈ closers (byteLength source.toList + 1) depth := by
    intro v hv
    have hall : v ∈ significant (tokens ++ closers (byteLength source.toList + 1) depth) := by
      rw [hown]
      simp only [List.mem_cons, List.not_mem_nil, or_false] at hv
      rcases hv with rfl | rfl <;> simp
    exact List.mem_append.mp (List.mem_filter.mp hall).1
  have hcloser := cut_closers (byteLength source.toList + 1) depth
  constructor
  · rcases hmem t (by simp) with ht | ht
    · have hlt := hcut.apart.start_lt_stop t ht
      have hle := hcut.stop_le t ht
      show t.span.start < _
      omega
    · -- a statement does not begin with a brace
      have hkind := kind_of_mem_closers t ht
      rw [hforms.first_kind] at hkind
      cases hkind
  · rcases hmem u (by simp) with hu | hu
    · have hle := hcut.stop_le u hu
      rw [Nat.zero_add] at hle
      exact Or.inl hle
    · have hle := hcloser.offset_le u hu
      have hlt := hcloser.apart.start_lt_stop u hu
      right
      show _ ≤ u.span.stop
      omega

/-- A statement that goes on past the end of the source has the one inside that ends with the
first brace after it. -/
theorem mem_outline_of_closed (hcut : Cut 0 source.toList tokens) {depth : Nat}
    {statements : List Statement}
    (h : Derives (significant (tokens ++ closers (byteLength source.toList + 1) depth)) statements)
    {b : Statement} (hb : b ∈ Statement.outlineAll statements)
    (hstop : b.span.stop = byteLength source.toList + 2) :
    ∀ s ∈ Statement.outlineAll statements, byteLength source.toList < s.span.stop →
      s = b ∨ (b ∈ s.outline ∧ b.span.stop < s.span.stop) := by
  intro s hs hlt
  have hcases := span_cases_of_closed hcut h
  have hbegins := (hcases b hb).1
  obtain ⟨hstarts, hends⟩ := hcases s hs
  have hleads := h.pairwise_leads (cut_closedBy hcut depth).apart.significant
  obtain ⟨front, back, hsplit⟩ := List.append_of_mem hb
  rw [hsplit] at hleads hs
  obtain ⟨-, hback, hfront⟩ := List.pairwise_append.mp hleads
  rcases List.mem_append.mp hs with hs | hs
  · rcases hfront s hs b List.mem_cons_self with hinside | hle
    · exact Or.inr hinside
    · omega
  · rcases List.mem_cons.mp hs with rfl | hs
    · exact Or.inl rfl
    · -- what comes after the block stands inside it, or begins after the source
      rcases (List.pairwise_cons.mp hback).1 s hs with ⟨-, hinside⟩ | hle
      · omega
      · omega

end Closing

/-- The tokens of the innermost open block: its words, its brace, and those of the statements in
it. -/
theorem Draft.HasRead.exists_innermost {d : Draft} {read : List Token} (h : d.HasRead read)
    {opener : OpenBlock} {opened : List OpenBlock} (hopened : d.opened = opener :: opened)
    (hprevious : d.previous = .semicolon ∨ d.previous = .closeBrace) :
    ∃ front t words brace done, read = front ++ t :: (words ++ brace :: done) ∧
      IsPhrase (t :: words) ∧ brace.kind = .openBrace ∧ Derives done d.statements ∧
      opener.words = (t :: words).map (·.text) ∧
      opener.opening = coverTo (t :: words) brace.span := by
  obtain ⟨outer, done, hreads, rfl⟩ := h
  have hpending : d.pending = [] := by
    refine hreads.pending_eq_nil ?_
    rcases hprevious with h | h <;> simp [h]
  have hopens := hreads.opens
  rw [hopened] at hopens
  cases hopens with
  | @cons outer before words brace _ _ _ _ hwords hbrace =>
    obtain ⟨t, words, rfl⟩ := List.exists_cons_of_ne_nil hwords.1
    exact ⟨outer ++ before, t, words, brace, done, by simp [hpending], hwords, hbrace,
      hreads.derives, rfl, rfl⟩

theorem significant_closers (offset count : Nat) :
    significant (closers offset count) = closers offset count := by
  refine List.filter_eq_self.mpr fun t ht => ?_
  simp [kind_of_mem_closers t ht]

/-- The block that the first closing brace completes goes from the first word that the draft has
of it to that brace, and its opening brace is the last one that the draft has of it. -/
theorem hasBraces_of_closed {source : String} {tokens : List Token} {d : Draft}
    (hcut : Cut 0 source.toList tokens) (hread : d.HasRead (significant tokens))
    {opener : OpenBlock} {opened : List OpenBlock} (hopened : d.opened = opener :: opened)
    (hprevious : d.previous = .semicolon ∨ d.previous = .closeBrace) (depth : Nat) :
    let opening := opener.opening
    let closing : Span := ⟨byteLength source.toList + 1, byteLength source.toList + 2⟩
    IsSlice source.toList ⟨opening.stop - 1, opening.stop⟩ ['{'] ∧
      (d.closed opener closing).span = ⟨opening.start, closing.stop⟩ ∧
      (d.closed opener closing).HasBraces (closedBy source (depth + 1)).toList d.statements
        ⟨opening.stop - 1, opening.stop⟩ closing := by
  intro opening closing
  obtain ⟨front, t, words, brace, done, hown, hwords, hbrace, hdone, htext, hopening⟩ :=
    hread.exists_innermost hopened hprevious
  have hapart := hcut.apart.significant
  rw [hown] at hapart
  have hmem : brace ∈ tokens := by
    have hsignificant : brace ∈ significant tokens := by simp [hown]
    exact (List.mem_filter.mp hsignificant).1
  have hslice := hcut.isSlice_openBrace hmem hbrace
  have hplace : opening = ⟨t.span.start, brace.span.stop⟩ := hopening.trans hapart.own.coverTo_eq
  have hlast : brace.span = ⟨opening.stop - 1, opening.stop⟩ := by
    obtain ⟨before, after, -, hspan⟩ := hslice
    rw [hplace, hspan]
    rfl
  -- in the completed source the brace after it follows the tokens of the block
  have hall : significant (tokens ++ closers (byteLength source.toList + 1) (depth + 1)) =
      front ++ t :: (words ++ brace :: (done ++ ⟨.closeBrace, "\x7d", closing⟩ ::
        closers (byteLength source.toList + 1 + 1) depth)) := by
    rw [significant_append, hown, significant_closers, closers]
    simp [closing]
  have hbraces := Forms.hasBraces hwords hbrace hdone rfl (cut_closedBy hcut (depth + 1)) hall
  have hblock : d.closed opener closing = .block ((t :: words).map (·.text)) t.text d.statements
      ((coverTo (t :: words) brace.span).cover closing) := by
    rw [Draft.closed, htext, hopening]
    rfl
  refine ⟨hlast ▸ hslice, ?_, ?_⟩
  · show opening.cover closing = _
    have ht := hapart.start_lt_stop t (by simp)
    have hto := hapart.own.first_le (u := brace) (by simp)
    have hb := hcut.apart.start_lt_stop brace hmem
    have hle := hcut.stop_le brace hmem
    rw [hplace]
    refine cover_of_stop_le ?_ ?_ ?_
    · show t.span.start ≤ brace.span.stop
      omega
    · show brace.span.stop ≤ byteLength source.toList + 1
      omega
    · exact Nat.le_succ _
  · rw [hblock, ← hlast]
    exact hbraces

/-- The draft of a source that ends inside a block. -/
theorem exists_draft_of_unclosedBlock {source : String} {opening : Span}
    (h : parseTree source = .error (.unclosedBlock opening)) :
    ∃ tokens d opener opened, tokenize source = .ok tokens ∧
      tokens.foldlM Draft.push Draft.start = .ok d ∧
      (d.previous = .semicolon ∨ d.previous = .closeBrace) ∧
      d.opened = opener :: opened ∧ opener.opening = opening := by
  cases parseTree_eq_error_iff.mp h with
  | token _ _ hpush =>
    obtain ⟨-, -, hend⟩ := Draft.push_eq_error hpush
    cases hend
  | @ending tokens offset d _ hstream hfold hfinish =>
    obtain ⟨hprevious, opener, opened, hopened, hopening⟩ := Draft.finish_eq_unclosedBlock hfinish
    obtain ⟨hcut, -⟩ := tokensFrom_eq_finished_iff.mp hstream
    exact ⟨tokens, d, opener, opened, tokenize_of_cut hcut, hfold, hprevious, hopened, hopening⟩

/-- A source ends inside a block, of which the words and the opening brace take up the range
`opening`: with `depth` closing braces after a line end, and with no other number, it has a tree,
and there the statement `b` is the block. -/
structure IsUnclosed (source : String) (opening : Span) (depth : Nat) (tree : Block)
    (b : Statement) : Prop where
  /-- A brace is missing. -/
  pos : 1 ≤ depth
  /-- So many braces complete the source. -/
  reads : parseTree (closedBy source depth) = .ok tree
  /-- No other number does. -/
  only : ∀ other again, parseTree (closedBy source other) = .ok again → other = depth
  /-- The range ends with an opening brace of the source. -/
  brace : IsSlice source.toList ⟨opening.stop - 1, opening.stop⟩ ['{']
  /-- The block is a statement of the tree. -/
  mem : b ∈ tree.outline
  /-- It begins where the range does and ends with the first brace after the source. -/
  span_eq : b.span = ⟨opening.start, byteLength source.toList + 2⟩
  /-- Its braces are the last one of the range and the first one after the source. -/
  braces : ∃ child ∈ b.block?, b.HasBraces (closedBy source depth).toList child.statements
    ⟨opening.stop - 1, opening.stop⟩
    ⟨byteLength source.toList + 1, byteLength source.toList + 2⟩
  /-- That brace ends no other statement. -/
  unique : ∀ s ∈ tree.outline, s.span.stop = byteLength source.toList + 2 → s = b
  /-- Every statement that goes on past the end of the source has the block inside. -/
  innermost : ∀ s ∈ tree.outline, byteLength source.toList < s.span.stop → b ∈ s.outline

/-- A block that is not closed is the innermost one that is open. -/
theorem exists_isUnclosed {source : String} {opening : Span}
    (h : parseTree source = .error (.unclosedBlock opening)) :
    ∃ depth tree b, IsUnclosed source opening depth tree b := by
  obtain ⟨tokens, d, opener, opened, htokens, hfold, hprevious, hopened, rfl⟩ :=
    exists_draft_of_unclosedBlock h
  have hcut := cut_of_tokenize htokens
  have hdepth : opened.length + 1 = d.opened.length := by
    rw [hopened]
    rfl
  have hcompletes := exists_parseTree_closedBy_iff htokens hfold hprevious
  rw [← hdepth] at hcompletes
  obtain ⟨tree, htree⟩ := (hcompletes _).mpr rfl
  have hread := Draft.hasRead_start.foldlM_push hcut.wellSpelled hfold
  rw [List.nil_append] at hread
  obtain ⟨hbrace, hspan, hbraces⟩ :=
    hasBraces_of_closed hcut hread hopened hprevious opened.length
  have hmem := closed_mem_outline htokens hfold hopened htree
  -- the statements of the completed source, and how they stand to the block
  obtain ⟨all, hall, hderives, -, -⟩ := parseTree_eq_ok_iff.mp htree
  obtain rfl := Except.ok.inj
    (hall.symm.trans (tokenize_of_cut (cut_closedBy hcut (opened.length + 1))))
  have hinside := mem_outline_of_closed hcut hderives hmem (congrArg Span.stop hspan)
  refine ⟨opened.length + 1, tree, _, ⟨Nat.le_add_left 1 _, htree, ?_, hbrace, hmem, hspan, ?_,
    ?_, ?_⟩⟩
  · intro other again hagain
    exact (hcompletes other).mp ⟨again, hagain⟩
  · exact ⟨⟨opener.words.headD "", d.statements⟩, rfl, hbraces⟩
  · intro s hs hstop
    rcases hinside s hs (by omega) with heq | ⟨-, hlt⟩
    · exact heq
    · rw [hspan, hstop] at hlt
      exact absurd hlt (Nat.lt_irrefl _)
  · intro s hs hlt
    rcases hinside s hs hlt with heq | ⟨hb, -⟩
    · rw [heq]
      exact Statement.mem_outline_self _
    · exact hb

/-- **Errors about braces name the right brace.** A closing brace that is reported stands at its
span, and what stands before it is a complete source. A block that is reported as not closed is,
in the source completed by closing braces, the one that the first of them ends: its span begins
where the reported one does, its opening brace stands where that one ends, and no other
statement that the source leaves open is inside it. -/
theorem brace_of_parseTree (source : String) :
    (∀ span, parseTree source = .error (.unbalancedClose span) →
      ∃ before after tree, source = before ++ "\x7d" ++ after ∧
        span = ⟨byteLength before.toList, byteLength before.toList + 1⟩ ∧
        parseTree before = .ok tree) ∧
    ∀ opening, parseTree source = .error (.unclosedBlock opening) →
      ∃ depth tree b, IsUnclosed source opening depth tree b :=
  ⟨fun _ h => exists_of_unbalancedClose h, fun _ h => exists_isUnclosed h⟩

/-- A closing brace too many after a comment, and two blocks that are not closed, with a quoted
brace and a closed block inside. -/
theorem brace_of_two_sources :
    let extra := "a\x7b\x7d # \x7b\n\x7d b;"
    let short := "a \x7b b; c '\x7d' \x7b d\x7b\x7d"
    parseTree extra = .error (.unbalancedClose ⟨8, 9⟩) ∧
      (∃ before after tree, extra = before ++ "\x7d" ++ after ∧
        (⟨8, 9⟩ : Span) = ⟨byteLength before.toList, byteLength before.toList + 1⟩ ∧
        parseTree before = .ok tree) ∧
      parseTree short = .error (.unclosedBlock ⟨7, 14⟩) ∧
      ∃ depth tree b, IsUnclosed short ⟨7, 14⟩ depth tree b := by
  intro extra short
  have hextra : parseTree extra = .error (.unbalancedClose ⟨8, 9⟩) := by cbv
  have hshort : parseTree short = .error (.unclosedBlock ⟨7, 14⟩) := by cbv
  exact ⟨hextra, (brace_of_parseTree extra).1 _ hextra, hshort,
    (brace_of_parseTree short).2 _ hshort⟩

end Waymark.Config
