import Waymark.Config.Tree

/-!
# Waymark.Config.Rules

Which statements each context allows.

A port and locations may stand directly in the file, or in
`http { server { … } }`; the body of a location holds the arguments of its handler,
one directive each.

Design points:

* `ContextRules.violation?` is the whole rule for one statement: it depends on the
  statement and on the blocks before it in the same block;
* the walk takes blocks level by level and statements in order, so that the
  violation reported is the outermost one.
-/

namespace Waymark.Config

/-- How many arguments a statement takes. -/
inductive Arity where
  /-- One number only. -/
  | exactly (count : Nat)
  /-- Any of some numbers. -/
  | oneOf (counts : List Nat)
  deriving DecidableEq, Repr

namespace Arity

/-- Whether a number of arguments is right. -/
def accepts : Arity → Nat → Bool
  | exactly n, count => n = count
  | oneOf counts, count => counts.contains count

/-- The numbers in words. -/
def describe : Arity → String
  | exactly n => toString n
  | oneOf counts => " or ".intercalate (counts.map toString)

end Arity

/-- A directive that a context allows. -/
structure DirectiveRule where
  /-- The directive's name. -/
  name : String
  /-- Its number of arguments. -/
  arity : Arity

/-- A block that a context allows. -/
structure BlockRule where
  /-- The block's name, which is also the context of its statements. -/
  name : String
  /-- The number of arguments before its brace. -/
  arity : Arity
  /-- Whether the enclosing block may hold one such block only. -/
  singleton : Bool

/-- What may stand in one context. -/
structure ContextRules where
  /-- The name of the context. -/
  context : String
  /-- The directives known by name. -/
  directives : List DirectiveRule
  /-- The blocks known by name. -/
  blocks : List BlockRule
  /-- Whether every other directive is allowed too. -/
  freeForm : Bool

/-- A statement that breaks the rules of its context. -/
inductive SchemaError where
  /-- There are no rules for the context. -/
  | unknownContext (context : String)
  /-- The context knows no statement of this name. -/
  | unknownDirective (name context : String) (span : Span)
  /-- A directive bears the name of a block. -/
  | missingBlock (name context : String) (span : Span)
  /-- A block stands where only a directive is allowed. -/
  | unexpectedBlock (name context : String) (span : Span)
  /-- The number of arguments is wrong. -/
  | wrongArity (name : String) (expected : Arity) (found : Nat) (span : Span)
  /-- A block of a kind that may occur once occurs again. -/
  | duplicateBlock (name context : String) (span : Span)
  deriving DecidableEq, Repr

namespace SchemaError

/-- The place of the offending statement. -/
def span? : SchemaError → Option Span
  | unknownContext _ => none
  | unknownDirective _ _ span | missingBlock _ _ span | unexpectedBlock _ _ span
  | wrongArity _ _ _ span | duplicateBlock _ _ span => some span

/-- The error in words. -/
def message : SchemaError → String
  | unknownContext context => s!"No schema for context '{context}'"
  | unknownDirective name context _ => s!"Unknown directive '{name}' in {context} context"
  | missingBlock name context _ =>
      s!"'{name}' opens a block and needs \x7b ... \x7d in {context} context"
  | unexpectedBlock name context _ =>
      s!"'{name}' is a directive and cannot have a block in {context} context"
  | wrongArity name expected found _ =>
      s!"'{name}' takes {expected.describe} argument(s), found {found}"
  | duplicateBlock name context _ =>
      s!"Only one '{name}' block is allowed in {context} context"

end SchemaError

/-! ### The rules -/

/-- A location takes a path and a handler, and perhaps a modifier before them. -/
def locationRule : BlockRule := ⟨"location", .oneOf [2, 3], false⟩

/-- The rules of every known context. -/
def schema : List ContextRules := [
  ⟨mainContext, [⟨"port", .exactly 1⟩], [⟨"http", .exactly 0, true⟩, locationRule], false⟩,
  ⟨"http", [], [⟨"server", .exactly 0, true⟩], false⟩,
  ⟨"server", [⟨"listen", .exactly 1⟩], [locationRule], false⟩,
  ⟨"location", [], [], true⟩]

/-- The rules of a context. -/
def rulesOf? (context : String) : Option ContextRules :=
  schema.find? (·.context = context)

/-! ### One statement -/

namespace ContextRules

/-- The rule for directives of a name. -/
def directive? (rules : ContextRules) (name : String) : Option DirectiveRule :=
  rules.directives.find? (·.name = name)

/-- The rule for blocks of a name. -/
def block? (rules : ContextRules) (name : String) : Option BlockRule :=
  rules.blocks.find? (·.name = name)

/-- What is wrong with a statement in this context, given the statements before
it in the same block. -/
def violation? (rules : ContextRules) (earlier : List Statement) (s : Statement) :
    Option SchemaError :=
  let checkArity (arity : Arity) : Option SchemaError :=
    if arity.accepts s.args.length then none
    else some (.wrongArity s.name arity s.args.length s.span)
  match s.isBlock, rules.directive? s.name, rules.block? s.name with
  | false, some rule, _ => checkArity rule.arity
  | true, _, some rule =>
    if rule.singleton && earlier.any (fun t => t.isBlock && t.name = s.name) then
      some (.duplicateBlock s.name rules.context s.span)
    else checkArity rule.arity
  | false, none, some _ => some (.missingBlock s.name rules.context s.span)
  | true, some _, none => some (.unexpectedBlock s.name rules.context s.span)
  | false, none, none =>
    if rules.freeForm then none else some (.unknownDirective s.name rules.context s.span)
  | true, none, none =>
    if rules.freeForm then some (.unexpectedBlock s.name rules.context s.span)
    else some (.unknownDirective s.name rules.context s.span)

/-- Check the statements of one block in order, after some that have been
checked. -/
def check (rules : ContextRules) (earlier : List Statement) :
    List Statement → Except SchemaError Unit
  | [] => .ok ()
  | s :: rest =>
    match rules.violation? earlier s with
    | some error => .error error
    | none => rules.check (earlier ++ [s]) rest

end ContextRules

/-! ### The walk -/

mutual

/-- A measure of a statement that exceeds that of the statements inside. -/
def Statement.weight : Statement → Nat
  | .directive .. => 1
  | .block _ _ body _ => 2 + Statement.totalWeight body

/-- The sum of the weights of some statements. -/
def Statement.totalWeight : List Statement → Nat
  | [] => 0
  | s :: rest => s.weight + Statement.totalWeight rest

end

/-- The blocks that some statements open, each under the name of its statement. -/
def childBlocks (statements : List Statement) : List (String × List Statement) :=
  statements.filterMap fun s => s.block?.map fun b => (s.name, b.statements)

/-- The measure of blocks that wait to be checked. -/
def queueWeight : List (String × List Statement) → Nat
  | [] => 0
  | entry :: queue => 1 + Statement.totalWeight entry.2 + queueWeight queue

theorem queueWeight_append (queue more : List (String × List Statement)) :
    queueWeight (queue ++ more) = queueWeight queue + queueWeight more := by
  induction queue with
  | nil => simp [queueWeight]
  | cons entry queue ih => simp [queueWeight, ih, Nat.add_assoc]

theorem queueWeight_childBlocks (statements : List Statement) :
    queueWeight (childBlocks statements) ≤ Statement.totalWeight statements := by
  induction statements with
  | nil => simp [childBlocks, queueWeight]
  | cons s rest ih =>
    cases s with
    | directive words span =>
      have h : childBlocks (.directive words span :: rest) = childBlocks rest := rfl
      rw [h]
      simp only [Statement.totalWeight, Statement.weight]
      omega
    | block words context body span =>
      have h : queueWeight (childBlocks (.block words context body span :: rest)) =
          1 + Statement.totalWeight body + queueWeight (childBlocks rest) := rfl
      rw [h]
      simp only [Statement.totalWeight, Statement.weight]
      omega

/-- Check the blocks of a queue; the blocks inside them join its end. -/
def walk : List (String × List Statement) → Except SchemaError Unit
  | [] => .ok ()
  | (context, statements) :: queue =>
    match rulesOf? context with
    | none => .error (.unknownContext context)
    | some rules =>
      match rules.check [] statements with
      | .error error => .error error
      | .ok () => walk (queue ++ childBlocks statements)
termination_by queue => queueWeight queue
decreasing_by
  have h := queueWeight_childBlocks statements
  simp only [queueWeight_append, queueWeight]
  omega

/-- Check a tree whose statements stand in the context given, whatever context
the tree itself names. -/
def validate (tree : Block) (context : String) : Except SchemaError Unit :=
  walk [(context, tree.statements)]

end Waymark.Config
