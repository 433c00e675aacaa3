import Waymark.Proofs.Tree.Flatten

/-!
# Waymark.Proofs.Tree.Relocation

Tokens and statements at other places.

What some tokens derive depends on their places only through the ranges that cover several of
them. So a map of ranges that keeps the covering range (`Relocates`) takes a derivation to a
derivation: the tokens at their new places derive the statements at theirs
(`Derives.relocate`). Nothing else about a statement changes (`Statement.bareAll_relocateAll`).
-/

namespace Waymark.Config

/-- A map of places that keeps what covers two of them. -/
def Relocates (move : Span → Span) : Prop := ∀ a b, (move a).cover (move b) = move (a.cover b)

/-! ### Statements -/

namespace Statement

mutual

/-- A statement, with its place and those inside it moved. -/
def relocate (move : Span → Span) : Statement → Statement
  | .directive words span => .directive words (move span)
  | .block words context body span => .block words context (relocateAll move body) (move span)

/-- Some statements, with their places moved. -/
def relocateAll (move : Span → Span) : List Statement → List Statement
  | [] => []
  | s :: rest => s.relocate move :: relocateAll move rest

end

variable (move : Span → Span)

@[simp] theorem relocateAll_nil : relocateAll move [] = [] := by rw [relocateAll]

@[simp] theorem relocateAll_cons (s : Statement) (rest : List Statement) :
    relocateAll move (s :: rest) = s.relocate move :: relocateAll move rest := by rw [relocateAll]

/-- A statement is itself wherever it stands. -/
theorem bareAll_relocateAll (statements : List Statement) :
    bareAll (relocateAll move statements) = bareAll statements := by
  induction statements using list_induction with
  | nil => simp
  | directive words span rest ih => simp [relocate, ih]
  | block words context body span rest ihbody ih => simp [relocate, ihbody, ih]

theorem agrees_relocate (s : Statement) : (s.relocate move).agrees s = true := by
  have hall : agreeAll (relocateAll move [s]) [s] = true :=
    agreeAll_iff.mpr (bareAll_relocateAll move [s])
  simpa [agreeAll] using hall

end Statement

/-! ### Tokens -/

/-- A token at another place. -/
def Token.relocate (t : Token) (move : Span → Span) : Token := { t with span := move t.span }

@[simp] theorem Token.span_relocate (t : Token) (move : Span → Span) :
    (t.relocate move).span = move t.span := rfl

theorem coverTo_relocate {move : Span → Span} (hmove : Relocates move) (words : List Token)
    (last : Span) :
    coverTo (words.map (·.relocate move)) (move last) = move (coverTo words last) := by
  induction words with
  | nil => rfl
  | cons t words ih =>
    show (move t.span).cover (coverTo (words.map (·.relocate move)) (move last)) = _
    rw [ih, hmove]
    rfl

theorem map_text_relocate (move : Span → Span) (words : List Token) :
    (words.map (·.relocate move)).map (·.text) = words.map (·.text) := by
  rw [List.map_map]
  rfl

theorem map_item_relocate (move : Span → Span) (tokens : List Token) :
    (tokens.map (·.relocate move)).map Token.item = tokens.map Token.item := by
  rw [List.map_map]
  rfl

theorem significant_relocate (move : Span → Span) (tokens : List Token) :
    significant (tokens.map (·.relocate move)) = (significant tokens).map (·.relocate move) := by
  rw [significant, List.filter_map]
  rfl

theorem IsPhrase.relocate {words : List Token} (h : IsPhrase words) (move : Span → Span) :
    IsPhrase (words.map (·.relocate move)) := by
  refine ⟨by simpa using h.1, fun t ht => ?_⟩
  obtain ⟨word, hword, rfl⟩ := List.mem_map.mp ht
  exact h.2 word hword

/-- **Tokens at other places derive the same statements at theirs**, by induction over the
derivation. -/
theorem Derives.relocate {tokens : List Token} {statements : List Statement}
    (h : Derives tokens statements) {move : Span → Span} (hmove : Relocates move) :
    Derives (tokens.map (·.relocate move)) (Statement.relocateAll move statements) := by
  induction h with
  | nil => exact .nil
  | @directive words mark rest statements hwords hmark _ ih =>
    have hmark' : (mark.relocate move).kind = .semicolon := hmark
    have hall := Derives.directive (hwords.relocate move) hmark' ih
    rw [map_text_relocate, Token.span_relocate, coverTo_relocate hmove] at hall
    simpa [Statement.relocate] using hall
  | @block words opener inner body closer rest statements hwords hopener _ hcloser _ ihinner ih =>
    have hopener' : (opener.relocate move).kind = .openBrace := hopener
    have hcloser' : (closer.relocate move).kind = .closeBrace := hcloser
    have hall := Derives.block (hwords.relocate move) hopener' ihinner hcloser' ih
    rw [map_text_relocate, Token.span_relocate, Token.span_relocate, coverTo_relocate hmove,
      hmove] at hall
    simpa [Statement.relocate] using hall

end Waymark.Config
