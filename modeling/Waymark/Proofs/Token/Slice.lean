import Waymark.Proofs.Token.Extension

/-!
# Waymark.Proofs.Token.Slice

The tokens of a part of a text.

A part that begins with one token and ends with a later one is cut, by itself, into the tokens
from the one to the other: what a lexeme is depends on the text after it only through what
delimits it, and the end of the input delimits everything. Offsets count from the beginning of
the part instead of the text (`Cut.rebase`).

* `Cut.exists_split` takes a text apart at one of its tokens;
* `Cut.exists_upTo` keeps what stands before the end of a token;
* `Cut.exists_between` combines the two.
-/

namespace Waymark

/-- A part of a text, and the range of bytes that it takes up there. -/
def IsSlice (cs : List Char) (span : Span) (part : List Char) : Prop :=
  ∃ before after, cs = before ++ (part ++ after) ∧
    span = ⟨byteLength before, byteLength before + byteLength part⟩

/-- The same range, counted from an offset before it. -/
def Span.rebase (span : Span) (base : Nat) : Span := ⟨span.start - base, span.stop - base⟩

namespace Config

/-- The same token in a text that begins at an offset before it. -/
def Token.rebase (t : Token) (base : Nat) : Token := { t with span := t.span.rebase base }

/-- Where a text begins decides nothing about its tokens but their places. -/
theorem Cut.rebase {base offset : Nat} {cs : List Char} {tokens : List Token}
    (h : Cut (base + offset) cs tokens) : Cut offset cs (tokens.map (·.rebase base)) := by
  generalize hplace : base + offset = place at h
  induction h generalizing offset with
  | blank hgap => exact .blank hgap
  | @token place gap kind text rest tokens hgap hlexeme _ ih =>
    subst hplace
    have hrest := @ih (offset + byteLength gap + byteLength text) (by omega)
    have hspan : (⟨base + offset + byteLength gap,
        base + offset + byteLength gap + byteLength text⟩ : Span).rebase base =
        ⟨offset + byteLength gap, offset + byteLength gap + byteLength text⟩ := by
      simp only [Span.rebase, Span.mk.injEq]
      omega
    rw [List.map_cons, Token.rebase, hspan]
    exact .token hgap hlexeme hrest

/-- A text that begins with a lexeme. -/
theorem Cut.of_isLexeme {offset : Nat} {kind : TokenKind} {text rest : List Char}
    {tokens : List Token} (hlexeme : IsLexeme kind text rest)
    (hrest : Cut (offset + byteLength text) rest tokens) :
    Cut offset (text ++ rest)
      (⟨kind, String.ofList text, ⟨offset, offset + byteLength text⟩⟩ :: tokens) := by
  have hgap : ∀ c ∈ ([] : List Char), isBlank c = true := by simp
  exact @Cut.token offset [] kind text rest tokens hgap hlexeme hrest

/-- **A text comes apart at each of its tokens.** What stands before the token is cut into the
tokens before it, and from the token on the text is cut into it and those after it. -/
theorem Cut.exists_split {offset : Nat} {cs : List Char} {front back : List Token} {t : Token}
    (h : Cut offset cs (front ++ t :: back)) :
    ∃ before after, cs = before ++ (t.text.toList ++ after) ∧ Cut offset before front ∧
      t.span.start = offset + byteLength before ∧
      t.span.stop = t.span.start + byteLength t.text.toList ∧
      Cut t.span.start (t.text.toList ++ after) (t :: back) := by
  generalize htokens : front ++ t :: back = tokens at h
  induction h generalizing front with
  | blank _ => simp at htokens
  | @token offset gap kind text rest tokens hgap hlexeme hrest ih =>
    cases front with
    | nil =>
      obtain ⟨rfl, rfl⟩ := List.cons.inj htokens
      refine ⟨gap, rest, ?_, .blank hgap, rfl, ?_, ?_⟩
      · rw [String.toList_ofList]
      · rw [String.toList_ofList]
      · rw [String.toList_ofList]
        exact .of_isLexeme hlexeme hrest
    | cons first front =>
      obtain ⟨rfl, hmore⟩ := List.cons.inj htokens
      obtain ⟨before, after, rfl, hbefore, hstart, hstop, hafter⟩ := ih hmore
      refine ⟨gap ++ (text ++ before), after, by simp, ?_, ?_, hstop, hafter⟩
      · -- the last lexeme before the token is now delimited by the end of the text
        exact .token hgap (hlexeme.replace (replaces_front _ _)) hbefore
      · rw [hstart, byteLength_append, byteLength_append]
        omega

/-- What stands before the end of a token is cut into the tokens up to that one. -/
theorem Cut.exists_upTo {offset : Nat} {cs : List Char} {front back : List Token} {t : Token}
    (h : Cut offset cs (front ++ t :: back)) :
    ∃ part after, cs = part ++ after ∧ Cut offset part (front ++ [t]) ∧
      t.span.stop = offset + byteLength part ∧ t.text.toList <:+ part := by
  generalize htokens : front ++ t :: back = tokens at h
  induction h generalizing front with
  | blank _ => simp at htokens
  | @token offset gap kind text rest tokens hgap hlexeme hrest ih =>
    cases front with
    | nil =>
      obtain ⟨rfl, rfl⟩ := List.cons.inj htokens
      have hlast := hlexeme.replace (replaces_front [] rest)
      have hnone : ∀ c ∈ ([] : List Char), isBlank c = true := by simp
      refine ⟨gap ++ text, rest, by simp, ?_, ?_, ?_⟩
      · have hcut := @Cut.token offset gap kind text [] [] hgap hlast (.blank hnone)
        rwa [List.append_nil] at hcut
      · rw [byteLength_append]
        show offset + byteLength gap + byteLength text = _
        omega
      · rw [String.toList_ofList]
        exact List.suffix_append gap text
    | cons first front =>
      obtain ⟨rfl, hmore⟩ := List.cons.inj htokens
      obtain ⟨part, after, rfl, hpart, hstop, hsuffix⟩ := ih hmore
      refine ⟨gap ++ (text ++ part), after, by simp, ?_, ?_, ?_⟩
      · exact .token hgap (hlexeme.replace (replaces_front _ _)) hpart
      · rw [hstop, byteLength_append, byteLength_append]
        omega
      · exact hsuffix.trans ((List.suffix_append text part).trans (List.suffix_append gap _))

/-- The place of a token is the part of the text that the token is. -/
theorem Cut.isSlice {cs : List Char} {tokens : List Token} {t : Token} (h : Cut 0 cs tokens)
    (ht : t ∈ tokens) : IsSlice cs t.span t.text.toList := by
  obtain ⟨front, back, rfl⟩ := List.append_of_mem ht
  obtain ⟨before, after, rfl, -, hstart, hstop, -⟩ := h.exists_split
  rw [Nat.zero_add] at hstart
  refine ⟨before, after, rfl, ?_⟩
  rw [← hstart, ← hstop]

/-- The part of a text from one token up to another one, without the other one. -/
theorem Cut.exists_before {cs : List Char} {front middle back : List Token} {t u : Token}
    (h : Cut 0 cs (front ++ t :: (middle ++ u :: back))) :
    ∃ part, IsSlice cs ⟨t.span.start, u.span.start⟩ part ∧
      Cut t.span.start part (t :: middle) := by
  obtain ⟨before, after, rfl, -, hstart, -, hafter⟩ := h.exists_split
  rw [← List.cons_append] at hafter
  obtain ⟨part, more, hmore, hpart, hend, -, -⟩ := hafter.exists_split
  rw [Nat.zero_add] at hstart
  refine ⟨part, ⟨before, _, by rw [hmore], ?_⟩, hpart⟩
  rw [hend, hstart]

/-- **From one token to another**: the part of a text from the beginning of the one to the end
of the other is cut into the tokens from the one to the other. -/
theorem Cut.exists_between {cs : List Char} {front middle back : List Token} {t u : Token}
    (h : Cut 0 cs (front ++ t :: (middle ++ u :: back))) :
    ∃ part, IsSlice cs ⟨t.span.start, u.span.stop⟩ part ∧ t.text.toList <+: part ∧
      u.text.toList <:+ part ∧ Cut t.span.start part (t :: (middle ++ [u])) := by
  obtain ⟨before, after, rfl, -, hstart, -, hafter⟩ := h.exists_split
  rw [← List.cons_append] at hafter
  obtain ⟨part, more, hmore, hpart, hstop, hsuffix⟩ := hafter.exists_upTo
  rw [Nat.zero_add] at hstart
  refine ⟨part, ⟨before, more, by rw [hmore], ?_⟩, ?_, hsuffix, hpart⟩
  · rw [hstop, hstart]
  · -- the part begins where its first token does
    have hfirst : Cut t.span.start part ([] ++ t :: (middle ++ [u])) := hpart
    obtain ⟨gap, rest, rfl, -, hgap, -, -⟩ := hfirst.exists_split
    cases gap with
    | nil => exact List.prefix_append _ _
    | cons c gap =>
      have hpos := c.utf8Size_pos
      rw [byteLength] at hgap
      omega

end Config

end Waymark
