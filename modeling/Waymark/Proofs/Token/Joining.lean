import Waymark.Proofs.Token.Extension

/-!
# Waymark.Proofs.Token.Joining

The tokens of two texts that are put together with a line end between them.

A line end delimits every lexeme, so the last token of the first text stays as it is, and it is a
blank, so the first token of the second text begins where it did. Nothing else of the state of
the lexer survives a token: the tokens are those of the two texts one after the other
(`Cut.join`), the second ones later by the length of the first text and one byte (`Cut.shift`).

Closing braces are their own tokens wherever they stand (`cut_closers`).
-/

namespace Waymark

/-- The range so many bytes later. -/
def Span.shift (span : Span) (distance : Nat) : Span :=
  ⟨span.start + distance, span.stop + distance⟩

namespace Config

/-- The token so many bytes later. -/
def Token.shift (t : Token) (distance : Nat) : Token := { t with span := t.span.shift distance }

/-- A text that begins later has its tokens later. -/
theorem Cut.shift {offset : Nat} {cs : List Char} {tokens : List Token} (h : Cut offset cs tokens)
    (distance : Nat) : Cut (offset + distance) cs (tokens.map (·.shift distance)) := by
  induction h with
  | blank hgap => exact .blank hgap
  | @token offset gap kind text rest tokens hgap hlexeme _ ih =>
    have hspan : (⟨offset + byteLength gap, offset + byteLength gap + byteLength text⟩ : Span).shift
        distance = ⟨offset + distance + byteLength gap,
          offset + distance + byteLength gap + byteLength text⟩ := by
      simp only [Span.shift, Span.mk.injEq]
      omega
    have hplace : offset + byteLength gap + byteLength text + distance =
        offset + distance + byteLength gap + byteLength text := by omega
    rw [hplace] at ih
    rw [List.map_cons, Token.shift, hspan]
    exact .token hgap hlexeme ih

/-- **Two texts with a line end between them** are cut into the tokens of both, by induction over
those of the first. -/
theorem Cut.join {offset : Nat} {cs more : List Char} {tokens others : List Token}
    (h : Cut offset cs tokens) (hmore : Cut (offset + byteLength cs + 1) more others) :
    Cut offset (cs ++ '\n' :: more) (tokens ++ others) := by
  induction h with
  | @blank offset gap hgap =>
    -- the line end is one more blank before the first token of the second text
    have hline : ∀ c ∈ gap ++ ['\n'], isBlank c = true := by
      intro c hc
      rcases List.mem_append.mp hc with hc | hc
      · exact hgap c hc
      · obtain rfl := List.mem_singleton.mp hc
        decide
    have hplace : offset + byteLength (gap ++ ['\n']) = offset + byteLength gap + 1 := by
      rw [byteLength_append]
      rfl
    rw [← hplace] at hmore
    have hcut := hmore.prepend hline
    rwa [List.append_assoc] at hcut
  | @token offset gap kind text rest tokens hgap hlexeme _ ih =>
    have hplace : offset + byteLength (gap ++ (text ++ rest)) + 1 =
        offset + byteLength gap + byteLength text + byteLength rest + 1 := by
      rw [byteLength_append, byteLength_append]
      omega
    rw [hplace] at hmore
    have hrest : Replaces (rest ++ '\n' :: more) rest :=
      Replaces.append_line_end (fun c hc => Or.inr hc) more
    rw [List.append_assoc, List.append_assoc]
    exact .token hgap (hlexeme.replace hrest) (ih hmore)

/-- The tokens of two sources with a line end between them. -/
theorem tokenize_join {first second : String} {tokens others : List Token}
    (hfirst : tokenize first = .ok tokens) (hsecond : tokenize second = .ok others) :
    tokenize (first ++ "\n" ++ second) =
      .ok (tokens ++ others.map (·.shift (byteLength first.toList + 1))) := by
  refine tokenize_of_cut ?_
  have hmore := (cut_of_tokenize hsecond).shift (byteLength first.toList + 1)
  rw [← Nat.add_assoc] at hmore
  have hcut := (cut_of_tokenize hfirst).join hmore
  simpa using hcut

/-! ### Closing braces -/

/-- The tokens of so many closing braces. -/
def closers (offset : Nat) : Nat → List Token
  | 0 => []
  | count + 1 => ⟨.closeBrace, "\x7d", ⟨offset, offset + 1⟩⟩ :: closers (offset + 1) count

theorem length_closers (offset count : Nat) : (closers offset count).length = count := by
  induction count generalizing offset with
  | zero => rfl
  | succ count ih => rw [closers, List.length_cons, ih]

theorem kind_of_mem_closers {offset count : Nat} :
    ∀ t ∈ closers offset count, t.kind = .closeBrace := by
  induction count generalizing offset with
  | zero => simp [closers]
  | succ count ih =>
    rw [closers]
    exact List.forall_mem_cons.mpr ⟨rfl, ih⟩

/-- Closing braces in a row are as many tokens. -/
theorem cut_closers (offset count : Nat) :
    Cut offset (List.replicate count '}') (closers offset count) := by
  have hnone : ∀ c ∈ ([] : List Char), isBlank c = true := by simp
  induction count generalizing offset with
  | zero => exact .blank hnone
  | succ count ih => exact .token hnone (.mark rfl) (ih (offset + 1))

end Config

end Waymark
