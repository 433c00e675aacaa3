import Mathlib.Data.List.Induction
import Waymark.Config.Rules

/-!
# Waymark.Proofs.Rules.Conformance

The rules as a property of trees, said without any walk.

* `ContextRules.Allows` is what a context asks of one statement by itself, and
  `ContextRules.Once` what it asks of all statements of a block together;
* `Conforms` is the recursion: what stands in a block of a statement has to conform to the
  context that the statement's name is;
* `ContextRules.Keeps` and `ContextRules.Breaks` judge a statement after those before it, as a
  reader who goes from left to right has to. `ContextRules.keepsAll_iff` says that nothing is
  lost by this.

The lookups in the table of rules find what the table lists, because no name is listed twice
in one place (`nodup_names`). The proofs below need nothing else of the table.
-/

namespace Waymark.Config

/-! ### Lookups -/

/-- Where no key occurs twice, looking for one finds the member that has it. -/
theorem find?_eq_some_iff_of_nodup {α : Type} {key : α → String} {members : List α}
    (h : (members.map key).Nodup) {name : String} {a : α} :
    members.find? (key · = name) = some a ↔ a ∈ members ∧ key a = name := by
  constructor
  · intro hfind
    exact ⟨List.mem_of_find?_eq_some hfind, by simpa using List.find?_some hfind⟩
  · intro ⟨hmem, hkey⟩
    subst hkey
    induction members with
    | nil => cases hmem
    | cons first rest ih =>
      obtain ⟨hfirst, hrest⟩ := List.nodup_cons.mp h
      rcases List.mem_cons.mp hmem with heq | hmem
      · rw [heq, List.find?_cons_of_pos (by simp)]
      · have hne : key first ≠ key a := by
          intro heq
          exact hfirst (heq ▸ List.mem_map_of_mem hmem)
        rw [List.find?_cons_of_neg (by simpa using hne)]
        exact ih hrest hmem

/-- The contexts that have rules. -/
def knownContexts : List String := [mainContext, "http", "server", "location"]

theorem map_context_schema : schema.map (·.context) = knownContexts := rfl

/-- No context has two sets of rules, and no name two rules in one context. -/
theorem nodup_names : (schema.map (·.context)).Nodup ∧ ∀ rules ∈ schema,
    (rules.directives.map (·.name)).Nodup ∧ (rules.blocks.map (·.name)).Nodup := by
  decide

/-- Every block that some context allows has rules of its own. -/
theorem name_mem_knownContexts :
    ∀ rules ∈ schema, ∀ rule ∈ rules.blocks, rule.name ∈ knownContexts := by
  decide

theorem rulesOf?_eq_some_iff {context : String} {rules : ContextRules} :
    rulesOf? context = some rules ↔ rules ∈ schema ∧ rules.context = context :=
  find?_eq_some_iff_of_nodup nodup_names.1

theorem rulesOf?_eq_none_iff {context : String} :
    rulesOf? context = none ↔ context ∉ knownContexts := by
  rw [← map_context_schema]
  simp [rulesOf?]

theorem mem_knownContexts_iff {context : String} :
    context ∈ knownContexts ↔ ∃ rules ∈ schema, rules.context = context := by
  rw [← map_context_schema, List.mem_map]

namespace ContextRules

/-- The names of the directives. -/
def directiveNames (rules : ContextRules) : List String := rules.directives.map (·.name)

/-- The names of the blocks. -/
def blockNames (rules : ContextRules) : List String := rules.blocks.map (·.name)

variable {rules : ContextRules} {earlier : List Statement} {s : Statement}

theorem directive?_eq_some_iff (hrules : rules ∈ schema) {name : String} {rule : DirectiveRule} :
    rules.directive? name = some rule ↔ rule ∈ rules.directives ∧ rule.name = name :=
  find?_eq_some_iff_of_nodup (nodup_names.2 rules hrules).1

theorem block?_eq_some_iff (hrules : rules ∈ schema) {name : String} {rule : BlockRule} :
    rules.block? name = some rule ↔ rule ∈ rules.blocks ∧ rule.name = name :=
  find?_eq_some_iff_of_nodup (nodup_names.2 rules hrules).2

theorem directive?_eq_none_iff {name : String} :
    rules.directive? name = none ↔ name ∉ rules.directiveNames := by
  simp [directive?, directiveNames]

theorem block?_eq_none_iff {name : String} :
    rules.block? name = none ↔ name ∉ rules.blockNames := by
  simp [block?, blockNames]

/-! ### What a context asks for -/

/-- A statement may stand in a context, as far as this is up to the statement alone. -/
inductive Allows (rules : ContextRules) (s : Statement) : Prop where
  /-- It is a directive that is listed, with as many arguments as it takes. -/
  | directive {arity : Arity} : s.isBlock = false → ⟨s.name, arity⟩ ∈ rules.directives →
      arity.accepts s.args.length = true → rules.Allows s
  /-- It is a block that is listed, with as many arguments as it takes. -/
  | block {arity : Arity} {singleton : Bool} : s.isBlock = true →
      ⟨s.name, arity, singleton⟩ ∈ rules.blocks → arity.accepts s.args.length = true →
      rules.Allows s
  /-- It is any other directive, where these are free. -/
  | free : s.isBlock = false → rules.freeForm = true → s.name ∉ rules.directiveNames →
      s.name ∉ rules.blockNames → rules.Allows s

/-- Of the blocks that may occur once, none occurs twice. -/
def Once (rules : ContextRules) (statements : List Statement) : Prop :=
  ∀ rule ∈ rules.blocks, rule.singleton = true →
    statements.countP (fun s => s.isBlock && s.name = rule.name) ≤ 1

/-- A statement is a block that may occur once, and stands after another one of its name. -/
structure Repeats (rules : ContextRules) (earlier : List Statement) (s : Statement) : Prop where
  /-- It is a block. -/
  isBlock : s.isBlock = true
  /-- It may occur once. -/
  singleton : ∃ arity, ⟨s.name, arity, true⟩ ∈ rules.blocks
  /-- It is not the first. -/
  again : ∃ t ∈ earlier, t.isBlock = true ∧ t.name = s.name

/-- A statement keeps to the rules, given those before it in the same block. -/
structure Keeps (rules : ContextRules) (earlier : List Statement) (s : Statement) : Prop where
  /-- It may stand there. -/
  allows : rules.Allows s
  /-- It does not occur again. -/
  first : ¬ rules.Repeats earlier s

/-- A statement breaks a rule, given those before it in the same block. A block that may not
occur again breaks this rule however many arguments it has. -/
inductive Breaks (rules : ContextRules) (earlier : List Statement) (s : Statement) :
    SchemaError → Prop where
  /-- Its name is not listed. -/
  | unknown : rules.freeForm = false → s.name ∉ rules.directiveNames →
      s.name ∉ rules.blockNames →
      rules.Breaks earlier s (.unknownDirective s.name rules.context s.span)
  /-- It is a directive with the name of a block. -/
  | missing : s.isBlock = false → s.name ∉ rules.directiveNames → s.name ∈ rules.blockNames →
      rules.Breaks earlier s (.missingBlock s.name rules.context s.span)
  /-- It is a block with the name of a directive, or where any name is one. -/
  | unexpected : s.isBlock = true → s.name ∉ rules.blockNames →
      s.name ∈ rules.directiveNames ∨ rules.freeForm = true →
      rules.Breaks earlier s (.unexpectedBlock s.name rules.context s.span)
  /-- It is a directive with a wrong number of arguments. -/
  | directiveArity {arity : Arity} : s.isBlock = false → ⟨s.name, arity⟩ ∈ rules.directives →
      arity.accepts s.args.length = false →
      rules.Breaks earlier s (.wrongArity s.name arity s.args.length s.span)
  /-- It is a block with a wrong number of arguments. -/
  | blockArity {arity : Arity} {singleton : Bool} : s.isBlock = true →
      ⟨s.name, arity, singleton⟩ ∈ rules.blocks → ¬ rules.Repeats earlier s →
      arity.accepts s.args.length = false →
      rules.Breaks earlier s (.wrongArity s.name arity s.args.length s.span)
  /-- It occurs again. -/
  | repeated : rules.Repeats earlier s →
      rules.Breaks earlier s (.duplicateBlock s.name rules.context s.span)

/-! ### One statement -/

theorem mem_directiveNames_iff {name : String} :
    name ∈ rules.directiveNames ↔ ∃ arity, ⟨name, arity⟩ ∈ rules.directives := by
  rw [directiveNames, List.mem_map]
  constructor
  · rintro ⟨⟨_, arity⟩, hmem, rfl⟩
    exact ⟨arity, hmem⟩
  · intro ⟨arity, hmem⟩
    exact ⟨_, hmem, rfl⟩

theorem mem_blockNames_iff {name : String} :
    name ∈ rules.blockNames ↔ ∃ arity singleton, ⟨name, arity, singleton⟩ ∈ rules.blocks := by
  rw [blockNames, List.mem_map]
  constructor
  · rintro ⟨⟨_, arity, singleton⟩, hmem, rfl⟩
    exact ⟨arity, singleton, hmem⟩
  · intro ⟨arity, singleton, hmem⟩
    exact ⟨_, hmem, rfl⟩

/-- There is a judgement on every statement: by what it is, and by where its name is listed. -/
theorem keeps_or_breaks (rules : ContextRules) (earlier : List Statement) (s : Statement) :
    rules.Keeps earlier s ∨ ∃ error, rules.Breaks earlier s error := by
  cases hblock : s.isBlock with
  | false =>
    have hfirst : ¬ rules.Repeats earlier s := by
      intro h
      rw [h.isBlock] at hblock
      cases hblock
    by_cases hdirective : s.name ∈ rules.directiveNames
    · obtain ⟨arity, hlisted⟩ := mem_directiveNames_iff.mp hdirective
      cases haccepts : arity.accepts s.args.length with
      | true => exact Or.inl ⟨.directive hblock hlisted haccepts, hfirst⟩
      | false => exact Or.inr ⟨_, .directiveArity hblock hlisted haccepts⟩
    · by_cases hname : s.name ∈ rules.blockNames
      · exact Or.inr ⟨_, .missing hblock hdirective hname⟩
      · cases hfree : rules.freeForm with
        | true => exact Or.inl ⟨.free hblock hfree hdirective hname, hfirst⟩
        | false => exact Or.inr ⟨_, .unknown hfree hdirective hname⟩
  | true =>
    by_cases hname : s.name ∈ rules.blockNames
    · obtain ⟨arity, singleton, hlisted⟩ := mem_blockNames_iff.mp hname
      by_cases hagain : rules.Repeats earlier s
      · exact Or.inr ⟨_, .repeated hagain⟩
      · cases haccepts : arity.accepts s.args.length with
        | true => exact Or.inl ⟨.block hblock hlisted haccepts, hagain⟩
        | false => exact Or.inr ⟨_, .blockArity hblock hlisted hagain haccepts⟩
    · by_cases hdirective : s.name ∈ rules.directiveNames
      · exact Or.inr ⟨_, .unexpected hblock hname (Or.inl hdirective)⟩
      · cases hfree : rules.freeForm with
        | true => exact Or.inr ⟨_, .unexpected hblock hname (Or.inr hfree)⟩
        | false => exact Or.inr ⟨_, .unknown hfree hdirective hname⟩

/-- A block that is listed occurs again if its rule says that it may not, and it does. -/
theorem repeats_iff (hrules : rules ∈ schema) {arity : Arity} {singleton : Bool}
    (hblock : s.isBlock = true) (hlisted : ⟨s.name, arity, singleton⟩ ∈ rules.blocks) :
    rules.Repeats earlier s ↔
      (singleton && earlier.any fun t => t.isBlock && t.name = s.name) = true := by
  constructor
  · intro h
    obtain ⟨other, hsingleton⟩ := h.singleton
    have hrule := (block?_eq_some_iff hrules).mpr ⟨hlisted, rfl⟩
    have hsame := (block?_eq_some_iff hrules).mpr ⟨hsingleton, rfl⟩
    obtain ⟨-, rfl⟩ : arity = other ∧ singleton = true := by
      simpa using hrule.symm.trans hsame
    simpa using h.again
  · intro h
    simp only [Bool.and_eq_true] at h
    obtain ⟨rfl, hagain⟩ := h
    exact ⟨hblock, ⟨arity, hlisted⟩, by simpa using hagain⟩

theorem Keeps.violation?_eq (hrules : rules ∈ schema) (h : rules.Keeps earlier s) :
    rules.violation? earlier s = none := by
  cases h.allows with
  | directive hplain hlisted haccepts =>
    have hrule := (directive?_eq_some_iff hrules).mpr ⟨hlisted, rfl⟩
    simp [violation?, hplain, hrule, haccepts]
  | block hblock hlisted haccepts =>
    have hrule := (block?_eq_some_iff hrules).mpr ⟨hlisted, rfl⟩
    have hfirst := Bool.eq_false_iff.mpr (h.first ∘ (repeats_iff hrules hblock hlisted).mpr)
    simp [violation?, hblock, hrule, hfirst, haccepts]
  | free hplain hfree hdirective hname =>
    simp [violation?, hplain, directive?_eq_none_iff.mpr hdirective,
      block?_eq_none_iff.mpr hname, hfree]

theorem Breaks.violation?_eq (hrules : rules ∈ schema) {error : SchemaError}
    (h : rules.Breaks earlier s error) : rules.violation? earlier s = some error := by
  cases h with
  | unknown hfree hdirective hname =>
    rw [← directive?_eq_none_iff] at hdirective
    rw [← block?_eq_none_iff] at hname
    cases hblock : s.isBlock with
    | false => simp [violation?, hblock, hdirective, hname, hfree]
    | true => simp [violation?, hblock, hdirective, hname, hfree]
  | missing hplain hdirective hname =>
    rw [← directive?_eq_none_iff] at hdirective
    obtain ⟨arity, singleton, hlisted⟩ := mem_blockNames_iff.mp hname
    have hrule := (block?_eq_some_iff hrules).mpr ⟨hlisted, rfl⟩
    simp [violation?, hplain, hdirective, hrule]
  | unexpected hblock hname hwhy =>
    rw [← block?_eq_none_iff] at hname
    cases hdirective : rules.directive? s.name with
    | some rule => simp [violation?, hblock, hname, hdirective]
    | none =>
      have hunlisted := directive?_eq_none_iff.mp hdirective
      simp [violation?, hblock, hname, hdirective, hwhy.resolve_left hunlisted]
  | directiveArity hplain hlisted haccepts =>
    have hrule := (directive?_eq_some_iff hrules).mpr ⟨hlisted, rfl⟩
    simp [violation?, hplain, hrule, haccepts]
  | blockArity hblock hlisted hagain haccepts =>
    have hrule := (block?_eq_some_iff hrules).mpr ⟨hlisted, rfl⟩
    have hfirst := Bool.eq_false_iff.mpr (hagain ∘ (repeats_iff hrules hblock hlisted).mpr)
    simp [violation?, hblock, hrule, hfirst, haccepts]
  | repeated hagain =>
    obtain ⟨arity, hlisted⟩ := hagain.singleton
    have hrule := (block?_eq_some_iff hrules).mpr ⟨hlisted, rfl⟩
    have hrepeats := (repeats_iff hrules hagain.isBlock hlisted).mp hagain
    simp [violation?, hagain.isBlock, hrule, hrepeats]

/-! ### The statements of a block -/

/-- Every statement of a block keeps to the rules, given those before it. -/
def KeepsAll (rules : ContextRules) (statements : List Statement) : Prop :=
  ∀ earlier s later, statements = earlier ++ s :: later → rules.Keeps earlier s

theorem keepsAll_nil (rules : ContextRules) : rules.KeepsAll [] := by
  intro earlier s later h
  simp at h

theorem keepsAll_concat_iff {statements : List Statement} :
    rules.KeepsAll (statements ++ [s]) ↔ rules.KeepsAll statements ∧ rules.Keeps statements s := by
  constructor
  · intro h
    refine ⟨fun earlier t later heq => h earlier t (later ++ [s]) (by simp [heq]), ?_⟩
    exact h statements s [] rfl
  · intro ⟨hall, hlast⟩ earlier t later heq
    -- the statement is the last one, or one of those before it
    rcases List.eq_nil_or_concat later with rfl | ⟨more, last, rfl⟩
    · obtain ⟨rfl, rfl⟩ := List.append_singleton_inj.mp heq
      exact hlast
    · rw [List.concat_eq_append, ← List.cons_append, ← List.append_assoc] at heq
      obtain ⟨rfl, -⟩ := List.append_singleton_inj.mp heq
      exact hall earlier t more rfl

theorem once_concat_iff {statements : List Statement} :
    rules.Once (statements ++ [s]) ↔ rules.Once statements ∧ ¬ rules.Repeats statements s := by
  constructor
  · intro h
    refine ⟨fun rule hrule hsingleton => ?_, fun hagain => ?_⟩
    · have hle := h rule hrule hsingleton
      rw [List.countP_append] at hle
      omega
    · obtain ⟨arity, hlisted⟩ := hagain.singleton
      obtain ⟨t, ht, htblock, htname⟩ := hagain.again
      have hle : (statements ++ [s]).countP (fun t => t.isBlock && t.name = s.name) ≤ 1 :=
        h _ hlisted rfl
      have hpos : 0 < statements.countP fun t => t.isBlock && t.name = s.name :=
        List.countP_pos_iff.mpr ⟨t, ht, by simp [htblock, htname]⟩
      have hlast : [s].countP (fun t => t.isBlock && t.name = s.name) = 1 := by
        simp [hagain.isBlock]
      rw [List.countP_append, hlast] at hle
      omega
  · intro ⟨honce, hfirst⟩ rule hrule hsingleton
    have hle := honce rule hrule hsingleton
    rw [List.countP_append]
    by_cases hcounts : (s.isBlock && s.name = rule.name) = true
    · -- a block of that name before the last one would make that one occur again
      have hzero : statements.countP (fun t => t.isBlock && t.name = rule.name) = 0 := by
        refine List.countP_eq_zero.mpr fun t ht hcount => hfirst ?_
        obtain ⟨name, arity, singleton⟩ := rule
        obtain rfl : singleton = true := hsingleton
        simp only [Bool.and_eq_true, decide_eq_true_eq] at hcounts hcount
        obtain ⟨hblock, rfl⟩ := hcounts
        exact ⟨hblock, ⟨arity, hrule⟩, t, ht, hcount⟩
      have hone : [s].countP (fun t => t.isBlock && t.name = rule.name) = 1 := by
        rw [List.countP_singleton, if_pos hcounts]
      omega
    · rw [List.countP_singleton, if_neg hcounts]
      exact hle

/-- **Judging from left to right loses nothing**: every statement keeps to the rules, given
those before it, exactly when each may stand in the context and no block that may occur once
occurs twice. -/
theorem keepsAll_iff {statements : List Statement} :
    rules.KeepsAll statements ↔ (∀ s ∈ statements, rules.Allows s) ∧ rules.Once statements := by
  induction statements using List.reverseRecOn with
  | nil => simp [keepsAll_nil, Once]
  | append_singleton statements s ih =>
    rw [keepsAll_concat_iff, ih, once_concat_iff, List.forall_mem_append, List.forall_mem_singleton]
    constructor
    · intro ⟨⟨hall, honce⟩, hallows, hfirst⟩
      exact ⟨⟨hall, hallows⟩, honce, hfirst⟩
    · intro ⟨⟨hall, hallows⟩, honce, hfirst⟩
      exact ⟨⟨hall, honce⟩, hallows, hfirst⟩

/-- Either all statements keep to the rules, or there is a first one that breaks one. -/
theorem keepsAll_or_breaks (rules : ContextRules) (statements : List Statement) :
    rules.KeepsAll statements ∨ ∃ earlier s later error, statements = earlier ++ s :: later ∧
      rules.KeepsAll earlier ∧ rules.Breaks earlier s error := by
  induction statements using List.reverseRecOn with
  | nil => exact Or.inl rules.keepsAll_nil
  | append_singleton statements last ih =>
    rcases ih with hkeeps | ⟨earlier, s, later, error, rfl, hkeeps, hbreaks⟩
    · rcases rules.keeps_or_breaks statements last with hlast | ⟨error, hbreaks⟩
      · exact Or.inl (keepsAll_concat_iff.mpr ⟨hkeeps, hlast⟩)
      · exact Or.inr ⟨statements, last, [], error, rfl, hkeeps, hbreaks⟩
    · exact Or.inr ⟨earlier, s, later ++ [last], error, by simp, hkeeps, hbreaks⟩

/-- The check of a block goes on while the statements keep to the rules. -/
theorem check_append (hrules : rules ∈ schema) (done more rest : List Statement)
    (h : rules.KeepsAll (done ++ more)) :
    rules.check done (more ++ rest) = rules.check (done ++ more) rest := by
  induction more generalizing done with
  | nil => rw [List.append_nil, List.nil_append]
  | cons s more ih =>
    have hkeeps := h done s more rfl
    have hnext : rules.KeepsAll (done ++ [s] ++ more) := by
      rw [List.append_assoc]
      exact h
    rw [List.cons_append, check, hkeeps.violation?_eq hrules]
    dsimp only
    rw [ih _ hnext, List.append_assoc, List.singleton_append]

/-- It stops at the first statement that breaks one. -/
theorem Breaks.check_eq (hrules : rules ∈ schema) {later : List Statement} {error : SchemaError}
    (hkeeps : rules.KeepsAll earlier) (h : rules.Breaks earlier s error) :
    rules.check [] (earlier ++ s :: later) = .error error := by
  rw [check_append hrules [] earlier _ hkeeps, List.nil_append, check, h.violation?_eq hrules]

theorem check_eq_ok_iff (hrules : rules ∈ schema) {statements : List Statement} :
    rules.check [] statements = .ok () ↔ rules.KeepsAll statements := by
  constructor
  · intro h
    rcases rules.keepsAll_or_breaks statements with
      hkeeps | ⟨earlier, s, later, error, rfl, hkeeps, hbreaks⟩
    · exact hkeeps
    · rw [hbreaks.check_eq hrules hkeeps] at h
      cases h
  · intro h
    have hall := check_append hrules [] statements [] h
    rw [List.append_nil] at hall
    rw [hall, check]

end ContextRules

/-! ### Trees -/

/-- The statements of a block conform to a context: each may stand there, those that may occur
once do, and what stands in the block of a statement conforms to the context that has the
statement's name, whatever context the block itself bears. -/
inductive Conforms : (context : String) → (statements : List Statement) → Prop where
  /-- By the rules of the context, and by the blocks inside. -/
  | intro {rules : ContextRules} {context : String} {statements : List Statement} :
      rules ∈ schema → rules.context = context → (∀ s ∈ statements, rules.Allows s) →
      rules.Once statements →
      (∀ s ∈ statements, ∀ child ∈ s.block?, Conforms s.name child.statements) →
      Conforms context statements

/-- Only to a known context can statements conform. -/
theorem Conforms.mem_knownContexts {context : String} {statements : List Statement}
    (h : Conforms context statements) : context ∈ knownContexts := by
  cases h with
  | intro hrules hcontext _ _ _ => exact mem_knownContexts_iff.mpr ⟨_, hrules, hcontext⟩

/-- A block of a tree, under the name of the context to which it has to conform, keeps to the
rules of that context, whatever stands in the blocks inside it. -/
def KeepsLocally (block : String × List Statement) : Prop :=
  ∃ rules ∈ schema, rules.context = block.1 ∧ rules.KeepsAll block.2

theorem mem_childBlocks_iff {statements : List Statement} {entry : String × List Statement} :
    entry ∈ childBlocks statements ↔
      ∃ s ∈ statements, ∃ child ∈ s.block?, (s.name, child.statements) = entry := by
  simp only [childBlocks, List.mem_filterMap, Option.map_eq_some_iff, Option.mem_def]

theorem keepsLocally_iff {rules : ContextRules} (hrules : rules ∈ schema)
    {statements : List Statement} :
    KeepsLocally (rules.context, statements) ↔ rules.KeepsAll statements := by
  constructor
  · intro ⟨others, hothers, hcontext, hkeeps⟩
    -- one context has one set of rules
    have hsame := (rulesOf?_eq_some_iff.mpr ⟨hothers, hcontext⟩).symm.trans
      (rulesOf?_eq_some_iff.mpr ⟨hrules, rfl⟩)
    exact Option.some.inj hsame ▸ hkeeps
  · intro h
    exact ⟨rules, hrules, rfl, h⟩

/-- Conformance is keeping to the rules here and conforming inside. -/
theorem conforms_iff {context : String} {statements : List Statement} :
    Conforms context statements ↔ KeepsLocally (context, statements) ∧
      ∀ entry ∈ childBlocks statements, Conforms entry.1 entry.2 := by
  constructor
  · intro h
    cases h with
    | intro hrules hcontext hallows honce hinside =>
      refine ⟨⟨_, hrules, hcontext, ContextRules.keepsAll_iff.mpr ⟨hallows, honce⟩⟩, ?_⟩
      intro entry hentry
      obtain ⟨s, hs, child, hchild, rfl⟩ := mem_childBlocks_iff.mp hentry
      exact hinside s hs child hchild
  · intro ⟨⟨rules, hrules, hcontext, hkeeps⟩, hinside⟩
    obtain ⟨hallows, honce⟩ := ContextRules.keepsAll_iff.mp hkeeps
    refine .intro hrules hcontext hallows honce fun s hs child hchild => ?_
    exact hinside _ (mem_childBlocks_iff.mpr ⟨s, hs, child, hchild, rfl⟩)

/-- In a location stand directives, whatever their names and arguments, and no blocks. -/
theorem conforms_location_iff {statements : List Statement} :
    Conforms "location" statements ↔ ∀ s ∈ statements, s.isBlock = false := by
  constructor
  · intro h s hs
    cases h with
    | @intro rules _ _ hrules hcontext hallows _ _ =>
      have hlookup := rulesOf?_eq_some_iff.mpr ⟨hrules, hcontext⟩
      obtain rfl : ⟨"location", [], [], true⟩ = rules := Option.some.inj hlookup
      cases hallows s hs with
      | directive hplain _ _ => exact hplain
      | block _ hlisted _ => cases hlisted
      | free hplain _ _ _ => exact hplain
  · intro h
    have hrules : ⟨"location", [], [], true⟩ ∈ schema := by simp [schema]
    refine .intro hrules rfl (fun s hs => ?_) (fun rule hrule => by cases hrule) ?_
    · exact .free (h s hs) rfl (by simp [ContextRules.directiveNames])
        (by simp [ContextRules.blockNames])
    · intro s hs child hchild
      have hplain := h s hs
      rw [Statement.isBlock, Option.mem_def.mp hchild] at hplain
      cases hplain

/-- Blocks that keep to the rules open blocks of known contexts only. -/
theorem KeepsLocally.known {block : String × List Statement} (h : KeepsLocally block) :
    ∀ entry ∈ childBlocks block.2, entry.1 ∈ knownContexts := by
  obtain ⟨rules, hrules, -, hkeeps⟩ := h
  intro entry hentry
  obtain ⟨s, hs, child, hchild, rfl⟩ := mem_childBlocks_iff.mp hentry
  have hblock : s.isBlock = true := by
    rw [Statement.isBlock, Option.mem_def.mp hchild]
    rfl
  cases (ContextRules.keepsAll_iff.mp hkeeps).1 s hs with
  | directive hplain _ _ => simp [hplain] at hblock
  | block _ hlisted _ => exact name_mem_knownContexts rules hrules _ hlisted
  | free hplain _ _ _ => simp [hplain] at hblock

end Waymark.Config
