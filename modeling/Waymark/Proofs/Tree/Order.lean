import Waymark.Proofs.Tree.Derivation

/-!
# Waymark.Proofs.Tree.Order

The statements of a tree that is read from a text begin one after the other, in the order
in which the tree lists them.

The tokens of a text begin at ascending offsets, and a statement begins where its first
word does. So the beginnings of the statements are some of the beginnings of the tokens,
in their order: `Derives.beginnings_sublist` is the induction over the derivation.
-/

namespace Waymark.Config

/-! ### The order of the tokens -/

/-- Some tokens begin one after the other. -/
def Ascending (tokens : List Token) : Prop :=
  tokens.Pairwise fun a b => a.span.start < b.span.start

theorem byteLength_cons_pos (c : Char) (cs : List Char) : 0 < byteLength (c :: cs) := by
  have hsize := c.utf8Size_pos
  rw [byteLength]
  omega

/-- No token of a text begins before the text does. -/
theorem Cut.offset_le {offset : Nat} {cs : List Char} {tokens : List Token}
    (h : Cut offset cs tokens) : ∀ t ∈ tokens, offset ≤ t.span.start := by
  induction h with
  | blank _ => simp
  | @token offset gap kind text rest tokens _ _ _ ih =>
    intro t ht
    rcases List.mem_cons.mp ht with rfl | ht
    · show offset ≤ offset + byteLength gap
      omega
    · have hle := ih t ht
      omega

/-- No token of a text ends after the text does. -/
theorem Cut.stop_le {offset : Nat} {cs : List Char} {tokens : List Token}
    (h : Cut offset cs tokens) : ∀ t ∈ tokens, t.span.stop ≤ offset + byteLength cs := by
  induction h with
  | blank _ => simp
  | @token offset gap kind text rest tokens _ _ _ ih =>
    intro t ht
    rw [byteLength_append, byteLength_append]
    rcases List.mem_cons.mp ht with rfl | ht
    · show offset + byteLength gap + byteLength text ≤ _
      omega
    · have hle := ih t ht
      omega

/-- The tokens of a text begin one after the other, since none of them is empty. -/
theorem Cut.ascending {offset : Nat} {cs : List Char} {tokens : List Token}
    (h : Cut offset cs tokens) : Ascending tokens := by
  induction h with
  | blank _ => exact .nil
  | @token offset gap kind text rest tokens _ hlexeme hrest ih =>
    obtain ⟨c, tail, rfl, -⟩ := hlexeme.head_not_blank
    refine List.Pairwise.cons ?_ ih
    intro t ht
    have hle := hrest.offset_le t ht
    have hpos := byteLength_cons_pos c tail
    show offset + byteLength gap < t.span.start
    omega

theorem Ascending.significant {tokens : List Token} (h : Ascending tokens) :
    Ascending (significant tokens) :=
  List.Pairwise.filter _ h

/-! ### The order of the statements -/

/-- Where the statements begin, at every depth. -/
def beginnings (statements : List Statement) : List Nat :=
  (Statement.outlineAll statements).map (·.span.start)

/-- A range from one token to later ones begins where the first does. -/
theorem start_coverTo {t : Token} {words : List Token} {last : Span}
    (hwords : ∀ u ∈ words, t.span.start < u.span.start) (hlast : t.span.start < last.start) :
    (coverTo (t :: words) last).start = t.span.start := by
  have hrest : t.span.start < (coverTo words last).start := by
    induction words with
    | nil => exact hlast
    | cons u words ih =>
      have hu := hwords u (by simp)
      have hmore := ih fun v hv => hwords v (by simp [hv])
      show t.span.start < min u.span.start (coverTo words last).start
      omega
  show min t.span.start (coverTo words last).start = t.span.start
  omega

/-- **The statements begin in the order of their first words**, by induction over the
derivation. -/
theorem Derives.beginnings_sublist {tokens : List Token} {statements : List Statement}
    (h : Derives tokens statements) (hascending : Ascending tokens) :
    (beginnings statements).Sublist (tokens.map (·.span.start)) := by
  induction h with
  | nil => exact .slnil
  | @directive words mark rest statements hwords _ _ ih =>
    obtain ⟨t, words, rfl⟩ := List.exists_cons_of_ne_nil hwords.1
    obtain ⟨hfirst, htail⟩ := List.pairwise_cons.mp hascending
    have hstart : (coverTo (t :: words) mark.span).start = t.span.start :=
      start_coverTo (fun u hu => hfirst u (by simp [hu])) (hfirst mark (by simp))
    have hsub : rest.Sublist (words ++ mark :: rest) :=
      (List.sublist_cons_self mark rest).trans (List.sublist_append_right _ _)
    have hrest := (ih (htail.sublist hsub)).trans (hsub.map (·.span.start))
    rw [beginnings, Statement.outlineAll_directive, List.map_cons, Statement.span, hstart]
    exact hrest.cons_cons _
  | @block words opener inner body closer rest statements hwords _ _ _ _ ihinner ih =>
    obtain ⟨t, words, rfl⟩ := List.exists_cons_of_ne_nil hwords.1
    obtain ⟨hfirst, htail⟩ := List.pairwise_cons.mp hascending
    have hstart : ((coverTo (t :: words) opener.span).cover closer.span).start =
        t.span.start := by
      have hopening : (coverTo (t :: words) opener.span).start = t.span.start :=
        start_coverTo (fun u hu => hfirst u (by simp [hu])) (hfirst opener (by simp))
      have hcloser := hfirst closer (by simp)
      rw [Span.cover, hopening]
      show min t.span.start closer.span.start = t.span.start
      omega
    -- the body and what follows the block have separate stretches of the tokens
    have hsub : (inner ++ rest).Sublist (words ++ opener :: (inner ++ closer :: rest)) :=
      (((List.sublist_cons_self closer rest).append_left inner).cons opener).trans
        (List.sublist_append_right _ _)
    have hparts : Ascending (inner ++ rest) := htail.sublist hsub
    have hinner := ihinner (hparts.sublist (List.sublist_append_left _ _))
    have hrest := ih (hparts.sublist (List.sublist_append_right _ _))
    have hboth := hinner.append hrest
    rw [← List.map_append] at hboth
    rw [beginnings, Statement.outlineAll_block, List.map_cons, List.map_append,
      Statement.span, hstart]
    exact (hboth.trans (hsub.map (·.span.start))).cons_cons _

/-- **The statements of a source stand in its order**: at every depth, what a tree lists
later begins later. -/
theorem pairwise_outline {source : String} {tree : Block} (h : parseTree source = .ok tree) :
    tree.outline.Pairwise fun s t => s.span.start < t.span.start := by
  obtain ⟨tokens, htokens, hderives, -, -⟩ := parseTree_eq_ok_iff.mp h
  have hascending := (cut_of_tokenize htokens).ascending.significant
  have hstarts := List.pairwise_map.mpr hascending
  exact List.pairwise_map.mp (hstarts.sublist (hderives.beginnings_sublist hascending))

end Waymark.Config
