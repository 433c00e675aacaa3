import Waymark.Config.Tree
import Waymark.Config.Token

/-!
# Waymark.Proofs.Tree.Structure

What the theory of statement trees is stated with.

* `Statement.list_induction` is the one induction over trees: a list of statements is
  empty, or begins with a directive or with a block. Every fact about trees below and in
  the modules after this one is proved by it, so that no proof is mutual;
* `Block.outline` lists the statements at every depth, which turns "every statement of
  the tree" into "every member of a list";
* `Block.flatten` writes a tree as the tokens it stands for;
* `Statement.bare` forgets the spans, and `Statement.agreeAll` compares what is left.
-/

namespace Waymark.Config

namespace Statement

/-! ### Induction -/

/-- Induction over statements and the blocks inside them. -/
@[elab_as_elim]
theorem list_induction {motive : List Statement → Prop} (nil : motive [])
    (directive : ∀ words span rest, motive rest → motive (.directive words span :: rest))
    (block : ∀ words context body span rest, motive body → motive rest →
      motive (.block words context body span :: rest)) : ∀ statements, motive statements
  | [] => nil
  | .directive words span :: rest =>
    directive words span rest (list_induction nil directive block rest)
  | .block words context body span :: rest =>
    block words context body span rest (list_induction nil directive block body)
      (list_induction nil directive block rest)

/-! ### The statements of a tree -/

mutual

/-- A statement and those inside it, in the order in which they begin. -/
def outline : Statement → List Statement
  | .directive words span => [.directive words span]
  | .block words context body span => .block words context body span :: outlineAll body

/-- Some statements and those inside them, in the order in which they begin. -/
def outlineAll : List Statement → List Statement
  | [] => []
  | s :: rest => s.outline ++ outlineAll rest

end

@[simp] theorem outlineAll_nil : outlineAll [] = [] := by rw [outlineAll]

@[simp] theorem outlineAll_directive (words : List String) (span : Span)
    (rest : List Statement) :
    outlineAll (.directive words span :: rest) =
      .directive words span :: outlineAll rest := by
  simp [outlineAll, outline]

@[simp] theorem outlineAll_block (words : List String) (context : String)
    (body : List Statement) (span : Span) (rest : List Statement) :
    outlineAll (.block words context body span :: rest) =
      .block words context body span :: (outlineAll body ++ outlineAll rest) := by
  simp [outlineAll, outline]

@[simp] theorem outlineAll_append (statements more : List Statement) :
    outlineAll (statements ++ more) = outlineAll statements ++ outlineAll more := by
  induction statements with
  | nil => simp
  | cons s rest ih => simp [outlineAll, ih]

/-- The statements themselves are among those at every depth. -/
theorem mem_outlineAll {s : Statement} {statements : List Statement}
    (h : s ∈ statements) : s ∈ outlineAll statements := by
  induction statements using list_induction with
  | nil => cases h
  | directive words span rest ih =>
    rw [outlineAll_directive]
    rcases List.mem_cons.mp h with rfl | h
    · exact List.mem_cons_self
    · exact List.mem_cons_of_mem _ (ih h)
  | block words context body span rest _ ih =>
    rw [outlineAll_block]
    rcases List.mem_cons.mp h with rfl | h
    · exact List.mem_cons_self
    · exact List.mem_cons_of_mem _ (List.mem_append_right _ (ih h))

/-! ### The tokens of a tree -/

mutual

/-- The tokens that a statement stands for: its words, and a semicolon or the tokens of
its block in braces. -/
def flatten : Statement → List (TokenKind × String)
  | .directive words _ => words.map (TokenKind.word, ·) ++ [(.semicolon, ";")]
  | .block words _ body _ =>
    words.map (TokenKind.word, ·) ++ (.openBrace, "\x7b") :: (flattenAll body ++
      [(.closeBrace, "\x7d")])

/-- The tokens that some statements stand for. -/
def flattenAll : List Statement → List (TokenKind × String)
  | [] => []
  | s :: rest => s.flatten ++ flattenAll rest

end

@[simp] theorem flattenAll_nil : flattenAll [] = [] := by rw [flattenAll]

@[simp] theorem flattenAll_directive (words : List String) (span : Span)
    (rest : List Statement) :
    flattenAll (.directive words span :: rest) =
      words.map (TokenKind.word, ·) ++ (.semicolon, ";") :: flattenAll rest := by
  simp [flattenAll, flatten]

@[simp] theorem flattenAll_block (words : List String) (context : String)
    (body : List Statement) (span : Span) (rest : List Statement) :
    flattenAll (.block words context body span :: rest) =
      words.map (TokenKind.word, ·) ++ (.openBrace, "\x7b") :: (flattenAll body ++
        (.closeBrace, "\x7d") :: flattenAll rest) := by
  simp [flattenAll, flatten]

/-! ### Canonical text -/

@[simp] theorem printAll_nil (depth : Nat) : printAll depth [] = "" := by rw [printAll]

@[simp] theorem printAll_directive (depth : Nat) (words : List String) (span : Span)
    (rest : List Statement) :
    printAll depth (.directive words span :: rest) =
      indentation depth ++ " ".intercalate words ++ ";\n" ++ printAll depth rest := by
  simp [printAll, print]

@[simp] theorem printAll_block (depth : Nat) (words : List String) (context : String)
    (body : List Statement) (span : Span) (rest : List Statement) :
    printAll depth (.block words context body span :: rest) =
      indentation depth ++ " ".intercalate words ++ " \x7b\n" ++ printAll (depth + 1) body ++
        indentation depth ++ "\x7d\n" ++ printAll depth rest := by
  simp [printAll, print]

/-! ### Trees without spans -/

mutual

/-- A statement without its place and the places of those inside it. -/
def bare : Statement → Statement
  | .directive words _ => .directive words ⟨0, 0⟩
  | .block words context body _ => .block words context (bareAll body) ⟨0, 0⟩

/-- Some statements without their places. -/
def bareAll : List Statement → List Statement
  | [] => []
  | s :: rest => s.bare :: bareAll rest

end

@[simp] theorem bareAll_nil : bareAll [] = [] := by rw [bareAll]

@[simp] theorem bareAll_directive (words : List String) (span : Span)
    (rest : List Statement) :
    bareAll (.directive words span :: rest) = .directive words ⟨0, 0⟩ :: bareAll rest := by
  simp [bareAll, bare]

@[simp] theorem bareAll_block (words : List String) (context : String)
    (body : List Statement) (span : Span) (rest : List Statement) :
    bareAll (.block words context body span :: rest) =
      .block words context (bareAll body) ⟨0, 0⟩ :: bareAll rest := by
  simp [bareAll, bare]

theorem bareAll_eq_nil_iff {statements : List Statement} :
    bareAll statements = [] ↔ statements = [] := by
  cases statements <;> simp [bareAll]

/-- Statements agree when they differ in nothing but their places. -/
theorem agreeAll_iff {statements more : List Statement} :
    agreeAll statements more = true ↔ bareAll statements = bareAll more := by
  induction statements using list_induction generalizing more with
  | nil => cases more <;> simp [agreeAll, bareAll]
  | directive words span rest ih =>
    rcases more with _ | ⟨⟨words', span'⟩ | ⟨words', context', body', span'⟩, rest'⟩
    · simp [agreeAll]
    · simp [agreeAll, agrees, ih]
    · simp [agreeAll, agrees]
  | block words context body span rest ihbody ih =>
    rcases more with _ | ⟨⟨words', span'⟩ | ⟨words', context', body', span'⟩, rest'⟩
    · simp [agreeAll]
    · simp [agreeAll, agrees]
    · simp [agreeAll, agrees, ihbody, ih, and_assoc]

theorem flattenAll_bareAll (statements : List Statement) :
    flattenAll (bareAll statements) = flattenAll statements := by
  induction statements using list_induction with
  | nil => simp
  | directive words span rest ih => simp [ih]
  | block words context body span rest ihbody ih => simp [ihbody, ih]

theorem printAll_bareAll (depth : Nat) (statements : List Statement) :
    printAll depth (bareAll statements) = printAll depth statements := by
  induction statements using list_induction generalizing depth with
  | nil => simp
  | directive words span rest ih => simp [ih]
  | block words context body span rest ihbody ih => simp [ihbody, ih]

theorem outlineAll_bareAll (statements : List Statement) :
    outlineAll (bareAll statements) = (outlineAll statements).map bare := by
  induction statements using list_induction with
  | nil => simp
  | directive words span rest ih => simp [ih, bare]
  | block words context body span rest ihbody ih => simp [ihbody, ih, bare]

@[simp] theorem words_bare (s : Statement) : s.bare.words = s.words := by
  cases s <;> simp [bare, words]

/-- A property of single statements that does not look at places holds at every depth of a
tree if it does of the tree without them. -/
theorem forall_outlineAll_bareAll {p : Statement → Prop} (hp : ∀ s : Statement, p s.bare ↔ p s)
    (statements : List Statement) :
    (∀ s ∈ outlineAll (bareAll statements), p s) ↔ ∀ s ∈ outlineAll statements, p s := by
  rw [outlineAll_bareAll]
  simp only [List.forall_mem_map, hp]

end Statement

namespace Block

/-! ### Whole trees -/

/-- The statements of a tree at every depth, in the order in which they begin. -/
def outline (b : Block) : List Statement := Statement.outlineAll b.statements

/-- The tokens that a tree stands for. -/
def flatten (b : Block) : List (TokenKind × String) := Statement.flattenAll b.statements

/-- What every tree that is read from a text has: it is the main context, it is not
empty, every statement has a word, and every block bears the name of its statement. -/
structure WellFormed (b : Block) : Prop where
  /-- The root is the main context. -/
  context : b.context = mainContext
  /-- There is a statement. -/
  ne_nil : b.statements ≠ []
  /-- Every statement has a name. -/
  named : ∀ s ∈ b.outline, s.words ≠ []
  /-- The context of a block is the first word of its statement. -/
  contexts : ∀ s ∈ b.outline, ∀ child ∈ s.block?, s.words.head? = some child.context

theorem agrees_iff {a b : Block} :
    a.agrees b = true ↔ a.context = b.context ∧
      Statement.bareAll a.statements = Statement.bareAll b.statements := by
  simp [agrees, Statement.agreeAll_iff]

/-- A tree without places. -/
def bare (b : Block) : Block := ⟨b.context, Statement.bareAll b.statements⟩

theorem agrees_iff_bare {a b : Block} : a.agrees b = true ↔ a.bare = b.bare := by
  rw [agrees_iff, bare, bare, Block.mk.injEq]

theorem agrees_comm {a b : Block} (h : a.agrees b = true) : b.agrees a = true := by
  rw [agrees_iff] at h ⊢
  exact ⟨h.1.symm, h.2.symm⟩

theorem flatten_eq_of_agrees {a b : Block} (h : a.agrees b = true) : a.flatten = b.flatten := by
  unfold flatten
  rw [← Statement.flattenAll_bareAll, (agrees_iff.mp h).2, Statement.flattenAll_bareAll]

/-- Trees that agree have one canonical text. -/
theorem print_eq_of_agrees {a b : Block} (h : a.agrees b = true) : a.print = b.print := by
  unfold print
  rw [← Statement.printAll_bareAll, (agrees_iff.mp h).2, Statement.printAll_bareAll]

/-- What holds of every statement of a tree, whatever its place, holds of every statement
of a tree that agrees with it. -/
theorem forall_outline_of_agrees {a b : Block} {p : Statement → Prop}
    (hp : ∀ s : Statement, p s.bare ↔ p s) (h : a.agrees b = true) (ha : ∀ s ∈ a.outline, p s) :
    ∀ s ∈ b.outline, p s := by
  unfold outline at ha ⊢
  rw [← Statement.forall_outlineAll_bareAll hp, ← (agrees_iff.mp h).2,
    Statement.forall_outlineAll_bareAll hp]
  exact ha

theorem WellFormed.of_agrees {a b : Block} (h : a.agrees b = true) (ha : a.WellFormed) :
    b.WellFormed := by
  obtain ⟨hcontext, hbare⟩ := agrees_iff.mp h
  refine ⟨hcontext ▸ ha.context, ?_, ?_, ?_⟩
  · intro hnil
    rw [hnil, Statement.bareAll_nil] at hbare
    exact ha.ne_nil (Statement.bareAll_eq_nil_iff.mp hbare)
  · exact forall_outline_of_agrees (p := fun s => s.words ≠ []) (by simp) h ha.named
  · refine forall_outline_of_agrees
      (p := fun s => ∀ child ∈ s.block?, s.words.head? = some child.context) ?_ h ha.contexts
    intro s
    cases s <;> simp [Statement.bare, Statement.block?, Statement.words]

end Block

end Waymark.Config
