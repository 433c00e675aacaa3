import Waymark.Config.Rules
import Waymark.Proofs.Tree.Structure

/-!
# Waymark.Proofs.Rules.Places

Where the statements of a tree stand decides nothing about its rules: `validate` gives
the same answer on a tree and on the tree without spans, but for the span that an error
carries (`validate_bare`). The walk over the blocks is compared entry by entry of its
queue, so the induction is the walk's own.
-/

namespace Waymark.Config

/-- A violation without the place of the statement. -/
def SchemaError.bare : SchemaError → SchemaError
  | unknownContext context => unknownContext context
  | unknownDirective name context _ => unknownDirective name context ⟨0, 0⟩
  | missingBlock name context _ => missingBlock name context ⟨0, 0⟩
  | unexpectedBlock name context _ => unexpectedBlock name context ⟨0, 0⟩
  | wrongArity name expected found _ => wrongArity name expected found ⟨0, 0⟩
  | duplicateBlock name context _ => duplicateBlock name context ⟨0, 0⟩

namespace Statement

@[simp] theorem name_bare (s : Statement) : s.bare.name = s.name := by
  rw [name, name, words_bare]

@[simp] theorem args_bare (s : Statement) : s.bare.args = s.args := by
  rw [args, args, words_bare]

@[simp] theorem block?_bare (s : Statement) :
    s.bare.block? = s.block?.map fun b => ⟨b.context, bareAll b.statements⟩ := by
  cases s <;> simp [bare, block?]

@[simp] theorem isBlock_bare (s : Statement) : s.bare.isBlock = s.isBlock := by
  rw [isBlock, isBlock, block?_bare, Option.isSome_map]

@[simp] theorem span_bare (s : Statement) : s.bare.span = ⟨0, 0⟩ := by
  cases s <;> simp [bare, span]

theorem bareAll_eq_map (statements : List Statement) :
    bareAll statements = statements.map bare := by
  induction statements with
  | nil => simp
  | cons s rest ih => rw [bareAll, ih, List.map_cons]

end Statement

open Statement (bareAll bareAll_eq_map)

/-- The rule for one statement looks at names, arguments and blocks only. -/
theorem ContextRules.violation?_bare (rules : ContextRules) (earlier : List Statement)
    (s : Statement) :
    rules.violation? (bareAll earlier) s.bare = (rules.violation? earlier s).map (·.bare) := by
  have hearlier : (bareAll earlier).any (fun t => t.isBlock && t.name = s.bare.name) =
      earlier.any fun t => t.isBlock && t.name = s.name := by
    rw [bareAll_eq_map, List.any_map]
    simp [Function.comp_def]
  unfold violation?
  rw [hearlier]
  simp only [Statement.isBlock_bare, Statement.name_bare, Statement.args_bare,
    Statement.span_bare]
  split <;> (try split) <;> simp [SchemaError.bare, apply_ite]

theorem ContextRules.check_bare (rules : ContextRules) (earlier statements : List Statement) :
    rules.check (bareAll earlier) (bareAll statements) =
      (rules.check earlier statements).mapError (·.bare) := by
  induction statements generalizing earlier with
  | nil => rfl
  | cons s rest ih =>
    rw [Statement.bareAll, check, check, violation?_bare]
    cases hviolation : rules.violation? earlier s with
    | some error => rfl
    | none =>
      have hrest := ih (earlier ++ [s])
      rw [bareAll_eq_map, List.map_append, ← bareAll_eq_map, List.map_singleton] at hrest
      exact hrest

/-- The blocks of a queue without places. -/
def bareQueue (queue : List (String × List Statement)) : List (String × List Statement) :=
  queue.map fun entry => (entry.1, bareAll entry.2)

theorem childBlocks_bareAll (statements : List Statement) :
    childBlocks (bareAll statements) = bareQueue (childBlocks statements) := by
  unfold childBlocks bareQueue
  rw [bareAll_eq_map, List.filterMap_map, List.map_filterMap]
  congr 1
  funext s
  rw [Function.comp_apply, Statement.block?_bare, Statement.name_bare, Option.map_map,
    Option.map_map]
  rfl

theorem walk_bareQueue (queue : List (String × List Statement)) :
    walk (bareQueue queue) = (walk queue).mapError (·.bare) := by
  fun_induction walk queue with
  | case1 =>
    rw [bareQueue, List.map_nil, walk]
    rfl
  | case2 context statements queue hrules =>
    rw [bareQueue, List.map_cons, walk]
    simp only [hrules]
    rfl
  | case3 context statements queue rules hrules error hcheck =>
    have hbare := rules.check_bare [] statements
    rw [Statement.bareAll_nil, hcheck] at hbare
    rw [bareQueue, List.map_cons, walk]
    simp only [hrules, hbare]
    rfl
  | case4 context statements queue rules hrules hcheck ih =>
    have hbare := rules.check_bare [] statements
    rw [Statement.bareAll_nil, hcheck] at hbare
    rw [bareQueue, List.map_append] at ih
    rw [bareQueue, List.map_cons, walk]
    simp only [hrules, hbare]
    rw [← ih, childBlocks_bareAll]
    rfl

/-- **Rules do not depend on places.** A tree without spans keeps to the rules exactly
when the tree does, and breaks the same rule otherwise. -/
theorem validate_bare (tree : Block) (context : String) :
    validate ⟨tree.context, bareAll tree.statements⟩ context =
      (validate tree context).mapError (·.bare) :=
  walk_bareQueue [(context, tree.statements)]

/-- Trees that agree keep to the rules together. -/
theorem validate_of_agrees {a b : Block} {context : String} (h : a.agrees b = true)
    (ha : validate a context = .ok ()) : validate b context = .ok () := by
  obtain ⟨hcontext, hbare⟩ := Block.agrees_iff.mp h
  have hb := validate_bare b context
  rw [← hbare, ← hcontext, validate_bare a, ha] at hb
  cases hvalidate : validate b context with
  | error e =>
    rw [hvalidate] at hb
    cases hb
  | ok _ => rfl

end Waymark.Config
