import Waymark.Proofs.Token.Slice
import Waymark.Proofs.Tree.Relocation

/-!
# Waymark.Proofs.Tree.Rebase

Tokens and statements whose places are counted from another offset.

What a text is made of does not depend on where it begins: the tokens of a part of a text, with
their places counted from its beginning, are those of the part by itself (`Cut.tokenize_part`),
and they derive the same statements, with their places counted from there (`Derives.rebase`).
Counting from an offset is one way to relocate, so both are cases of
`Waymark.Proofs.Tree.Relocation`.
-/

namespace Waymark.Config

/-! ### Statements -/

namespace Statement

mutual

/-- A statement, with its places and those inside it counted from an offset. -/
def rebase (base : Nat) : Statement → Statement
  | .directive words span => .directive words (span.rebase base)
  | .block words context body span => .block words context (rebaseAll base body) (span.rebase base)

/-- Some statements, with their places counted from an offset. -/
def rebaseAll (base : Nat) : List Statement → List Statement
  | [] => []
  | s :: rest => s.rebase base :: rebaseAll base rest

end

@[simp] theorem rebaseAll_nil (base : Nat) : rebaseAll base [] = [] := by rw [rebaseAll]

@[simp] theorem rebaseAll_cons (base : Nat) (s : Statement) (rest : List Statement) :
    rebaseAll base (s :: rest) = s.rebase base :: rebaseAll base rest := by rw [rebaseAll]

theorem rebaseAll_eq_relocateAll (base : Nat) (statements : List Statement) :
    rebaseAll base statements = relocateAll (·.rebase base) statements := by
  induction statements using list_induction with
  | nil => simp
  | directive words span rest ih => simp [rebase, relocate, ih]
  | block words context body span rest ihbody ih => simp [rebase, relocate, ihbody, ih]

theorem agrees_rebase (base : Nat) (s : Statement) : (s.rebase base).agrees s = true := by
  have hone := rebaseAll_eq_relocateAll base [s]
  rw [rebaseAll_cons, relocateAll_cons] at hone
  rw [(List.cons.inj hone).1]
  exact agrees_relocate _ s

end Statement

/-! ### Tokens -/

theorem relocates_rebase (base : Nat) : Relocates (·.rebase base) := by
  intro a b
  simp only [Span.cover, Span.rebase, Span.mk.injEq]
  omega

theorem map_item_rebase (tokens : List Token) (base : Nat) :
    (tokens.map (·.rebase base)).map Token.item = tokens.map Token.item :=
  map_item_relocate (·.rebase base) tokens

theorem significant_rebase (tokens : List Token) (base : Nat) :
    significant (tokens.map (·.rebase base)) = (significant tokens).map (·.rebase base) :=
  significant_relocate (·.rebase base) tokens

/-- The statements of some tokens, wherever places are counted from. -/
theorem Derives.rebase {tokens : List Token} {statements : List Statement}
    (h : Derives tokens statements) (base : Nat) :
    Derives (tokens.map (·.rebase base)) (Statement.rebaseAll base statements) := by
  rw [Statement.rebaseAll_eq_relocateAll]
  exact h.relocate (relocates_rebase base)

/-- A part of a text has its own tokens for tokens, with their places counted from where it
begins. -/
theorem Cut.tokenize_part {offset : Nat} {part : List Char} {tokens : List Token}
    (h : Cut offset part tokens) :
    tokenize (String.ofList part) = .ok (tokens.map (·.rebase offset)) := by
  have hcut : Cut (offset + 0) part tokens := h
  refine tokenize_of_cut ?_
  rw [String.toList_ofList]
  exact hcut.rebase

end Waymark.Config
