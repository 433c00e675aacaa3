import Mathlib
import Waymark.Proofs.Rules.Conformance

/-!
# Waymark.Proofs.Rules.LevelOrder

The walk over a tree accepts what conforms to the rules, and otherwise reports the violation
that comes first level by level.

The queue of the walk holds the rest of one level and the beginning of the next, and neither is
marked. `walk_append_of_keeps` is what it does with any beginning of the queue that keeps to
the rules: it moves the blocks inside to the end. Taken for a whole level, it replaces the
queue by the next level (`walk_eq_walk_level`); taken for the blocks before the first violation,
it brings the block of this to the head.
-/

namespace Waymark.Config

/-- The blocks at a depth below some blocks, from left to right, each under the name of its
statement. -/
def level : (depth : Nat) → List (String × List Statement) → List (String × List Statement)
  | 0, blocks => blocks
  | depth + 1, blocks => level depth (blocks.flatMap fun block => childBlocks block.2)

/-- The first violation in a row of blocks: the statement `s` breaks a rule of its context, and
the blocks before its own and the statements before it in its own keep to the rules. -/
inductive FirstInRow (blocks : List (String × List Statement)) : SchemaError → Prop where
  /-- The row is cut at the block and the block at the statement. -/
  | intro {before rules earlier s later after error} :
      blocks = before ++ (rules.context, earlier ++ s :: later) :: after →
      (∀ block ∈ before, KeepsLocally block) → rules ∈ schema → rules.KeepsAll earlier →
      rules.Breaks earlier s error → FirstInRow blocks error

/-- The violation that comes first below some blocks, level by level: the levels above its own
keep to the rules, and on its own it is the first. -/
def FirstViolation (blocks : List (String × List Statement)) (error : SchemaError) : Prop :=
  ∃ depth, (∀ above < depth, ∀ block ∈ level above blocks, KeepsLocally block) ∧
    FirstInRow (level depth blocks) error

/-! ### Steps of the walk -/

/-- A block that keeps to the rules is taken from the head of the queue, and the blocks inside
it join the end. -/
theorem walk_cons_of_keeps {block : String × List Statement} (h : KeepsLocally block)
    (queue : List (String × List Statement)) :
    walk (block :: queue) = walk (queue ++ childBlocks block.2) := by
  obtain ⟨context, statements⟩ := block
  obtain ⟨rules, hrules, hcontext, hkeeps⟩ := h
  have hlookup := rulesOf?_eq_some_iff.mpr ⟨hrules, hcontext⟩
  rw [walk]
  simp only [hlookup, (ContextRules.check_eq_ok_iff hrules).mpr hkeeps]

/-- A block that breaks a rule ends the walk. -/
theorem walk_cons_of_breaks {rules : ContextRules} {earlier later : List Statement}
    {s : Statement} {error : SchemaError} (hrules : rules ∈ schema)
    (hkeeps : rules.KeepsAll earlier) (hbreaks : rules.Breaks earlier s error)
    (queue : List (String × List Statement)) :
    walk ((rules.context, earlier ++ s :: later) :: queue) = .error error := by
  have hlookup := rulesOf?_eq_some_iff.mpr ⟨hrules, rfl⟩
  rw [walk]
  simp only [hlookup, hbreaks.check_eq hrules hkeeps]

theorem walk_cons_of_unknown {context : String} (h : context ∉ knownContexts)
    (statements : List Statement) (queue : List (String × List Statement)) :
    walk ((context, statements) :: queue) = .error (.unknownContext context) := by
  rw [walk, rulesOf?_eq_none_iff.mpr h]

/-- **A stretch of the queue that keeps to the rules** makes way for the blocks inside it. -/
theorem walk_append_of_keeps {blocks : List (String × List Statement)}
    (h : ∀ block ∈ blocks, KeepsLocally block) (queue : List (String × List Statement)) :
    walk (blocks ++ queue) =
      walk (queue ++ blocks.flatMap fun block => childBlocks block.2) := by
  induction blocks generalizing queue with
  | nil => simp
  | cons block blocks ih =>
    obtain ⟨hfirst, hrest⟩ := List.forall_mem_cons.mp h
    rw [List.cons_append, walk_cons_of_keeps hfirst, List.append_assoc, ih hrest,
      List.flatMap_cons, List.append_assoc]

/-- **The walk goes level by level.** -/
theorem walk_eq_walk_level {blocks : List (String × List Statement)} {depth : Nat}
    (h : ∀ above < depth, ∀ block ∈ level above blocks, KeepsLocally block) :
    walk blocks = walk (level depth blocks) := by
  induction depth generalizing blocks with
  | zero => rfl
  | succ depth ih =>
    have hstep := walk_append_of_keeps (h 0 (Nat.succ_pos depth)) []
    rw [List.append_nil, List.nil_append] at hstep
    rw [level]
    refine hstep.trans (ih fun above hlt => ?_)
    exact h (above + 1) (Nat.succ_lt_succ hlt)

/-! ### The outcome of the walk -/

/-- The walk accepts the blocks that conform. -/
theorem walk_eq_ok_iff {queue : List (String × List Statement)} :
    walk queue = .ok () ↔ ∀ block ∈ queue, Conforms block.1 block.2 := by
  fun_induction walk queue with
  | case1 => simp
  | case2 context statements queue hlookup =>
    have hunknown := rulesOf?_eq_none_iff.mp hlookup
    constructor
    · intro h
      cases h
    · intro h
      exact absurd (h _ List.mem_cons_self).mem_knownContexts hunknown
  | case3 context statements queue rules hlookup error hcheck =>
    obtain ⟨hrules, rfl⟩ := rulesOf?_eq_some_iff.mp hlookup
    constructor
    · intro h
      cases h
    · intro h
      obtain ⟨hkeeps, -⟩ := conforms_iff.mp (h _ List.mem_cons_self)
      rw [keepsLocally_iff hrules, ← ContextRules.check_eq_ok_iff hrules, hcheck] at hkeeps
      cases hkeeps
  | case4 context statements queue rules hlookup hcheck ih =>
    obtain ⟨hrules, rfl⟩ := rulesOf?_eq_some_iff.mp hlookup
    rw [ContextRules.check_eq_ok_iff hrules, ← keepsLocally_iff hrules] at hcheck
    rw [ih, List.forall_mem_append, List.forall_mem_cons, conforms_iff]
    constructor
    · intro ⟨hqueue, hinside⟩
      exact ⟨⟨hcheck, hinside⟩, hqueue⟩
    · intro ⟨⟨_, hinside⟩, hqueue⟩
      exact ⟨hqueue, hinside⟩

/-- The next level weighs less. -/
theorem queueWeight_flatMap_childBlocks_lt {blocks : List (String × List Statement)}
    (h : blocks ≠ []) :
    queueWeight (blocks.flatMap fun block => childBlocks block.2) < queueWeight blocks := by
  have hle : ∀ rest : List (String × List Statement),
      queueWeight (rest.flatMap fun block => childBlocks block.2) ≤ queueWeight rest := by
    intro rest
    induction rest with
    | nil => simp [queueWeight]
    | cons block rest ih =>
      have hblock := queueWeight_childBlocks block.2
      rw [List.flatMap_cons, queueWeight_append, queueWeight]
      omega
  obtain ⟨block, rest, rfl⟩ := List.exists_cons_of_ne_nil h
  have hblock := queueWeight_childBlocks block.2
  have hrest := hle rest
  rw [List.flatMap_cons, queueWeight_append, queueWeight]
  omega

/-- The first violation in the queue ends the walk. -/
theorem FirstInRow.walk_eq {blocks : List (String × List Statement)} {error : SchemaError}
    (h : FirstInRow blocks error) : walk blocks = .error error := by
  cases h with
  | intro hrow hbefore hrules hkeeps hbreaks =>
    rw [hrow, walk_append_of_keeps hbefore, List.cons_append]
    exact walk_cons_of_breaks hrules hkeeps hbreaks _

theorem FirstViolation.walk_eq {blocks : List (String × List Statement)} {error : SchemaError}
    (h : FirstViolation blocks error) : walk blocks = .error error := by
  obtain ⟨depth, habove, hfirst⟩ := h
  rw [walk_eq_walk_level habove]
  exact hfirst.walk_eq

theorem FirstInRow.cons {block : String × List Statement} {rest : List (String × List Statement)}
    {error : SchemaError} (hkeeps : KeepsLocally block) (h : FirstInRow rest error) :
    FirstInRow (block :: rest) error := by
  cases h with
  | @intro before rules earlier s later after _ hrow hbefore hrules hearlier hbreaks =>
    have hrow' : block :: rest =
        (block :: before) ++ (rules.context, earlier ++ s :: later) :: after := by
      rw [hrow, List.cons_append]
    exact .intro hrow' (List.forall_mem_cons.mpr ⟨hkeeps, hbefore⟩) hrules hearlier hbreaks

/-- Blocks of known contexts all keep to the rules, or there is a first one that does not. -/
theorem keepsLocally_or_firstInRow {blocks : List (String × List Statement)}
    (hknown : ∀ block ∈ blocks, block.1 ∈ knownContexts) :
    (∀ block ∈ blocks, KeepsLocally block) ∨ ∃ error, FirstInRow blocks error := by
  induction blocks with
  | nil => simp
  | cons block rest ih =>
    obtain ⟨hcontext, hrest⟩ := List.forall_mem_cons.mp hknown
    obtain ⟨context, statements⟩ := block
    obtain ⟨rules, hrules, rfl⟩ := mem_knownContexts_iff.mp hcontext
    rcases rules.keepsAll_or_breaks statements with
      hkeeps | ⟨earlier, s, later, error, rfl, hkeeps, hbreaks⟩
    · have hfirst := (keepsLocally_iff hrules).mpr hkeeps
      rcases ih hrest with hall | ⟨error, hlater⟩
      · exact Or.inl (List.forall_mem_cons.mpr ⟨hfirst, hall⟩)
      · exact Or.inr ⟨error, hlater.cons hfirst⟩
    · have hrow : (rules.context, earlier ++ s :: later) :: rest =
          [] ++ (rules.context, earlier ++ s :: later) :: rest := rfl
      exact Or.inr ⟨error, .intro hrow (by simp) hrules hkeeps hbreaks⟩

/-- **The walk over blocks of known contexts** reports the first violation, by induction over
the levels. -/
theorem firstViolation_of_walk {blocks : List (String × List Statement)} {error : SchemaError}
    (hknown : ∀ block ∈ blocks, block.1 ∈ knownContexts) (h : walk blocks = .error error) :
    FirstViolation blocks error := by
  induction hn : queueWeight blocks using Nat.strongRecOn generalizing blocks with
  | ind n ih =>
    rcases keepsLocally_or_firstInRow hknown with hkeeps | ⟨found, hfound⟩
    · have hne : blocks ≠ [] := by
        rintro rfl
        simp [walk] at h
      have hstep := walk_append_of_keeps hkeeps []
      rw [List.append_nil, List.nil_append, h] at hstep
      have hlt := queueWeight_flatMap_childBlocks_lt hne
      have hinside : ∀ entry ∈ blocks.flatMap fun block => childBlocks block.2,
          entry.1 ∈ knownContexts := by
        intro entry hentry
        obtain ⟨block, hblock, hentry⟩ := List.mem_flatMap.mp hentry
        exact (hkeeps block hblock).known entry hentry
      obtain ⟨depth, habove, hfirst⟩ := ih _ (hn ▸ hlt) hinside hstep.symm rfl
      -- what is first below the next level is one level deeper below this one
      refine ⟨depth + 1, fun above hlt => ?_, hfirst⟩
      cases above with
      | zero => exact hkeeps
      | succ above => exact habove above (Nat.lt_of_succ_lt_succ hlt)
    · obtain rfl := Except.error.inj (hfound.walk_eq.symm.trans h)
      exact ⟨0, by simp, hfound⟩

/-- **Validation.** A tree is valid in a context exactly when the context is known and the tree
conforms to it. Otherwise an unknown context is the error, and in a known one the violation
that comes first level by level. To the context of locations conforms whatever opens no
block. -/
theorem validate_levelOrder (tree : Block) (context : String) :
    (validate tree context = .ok () ↔
      context ∈ ["main", "http", "server", "location"] ∧ Conforms context tree.statements) ∧
    (∀ error, validate tree context = .error error ↔
      (context ∉ ["main", "http", "server", "location"] ∧ error = .unknownContext context) ∨
        (context ∈ ["main", "http", "server", "location"] ∧
          FirstViolation [(context, tree.statements)] error)) ∧
    (Conforms "location" tree.statements ↔ ∀ s ∈ tree.statements, s.isBlock = false) := by
  refine ⟨?_, fun error => ?_, conforms_location_iff⟩
  · rw [validate, walk_eq_ok_iff, List.forall_mem_singleton]
    constructor
    · intro h
      exact ⟨h.mem_knownContexts, h⟩
    · intro ⟨_, h⟩
      exact h
  · constructor
    · intro h
      by_cases hknown : context ∈ knownContexts
      · exact Or.inr ⟨hknown, firstViolation_of_walk (by simpa using hknown) h⟩
      · rw [validate, walk_cons_of_unknown hknown] at h
        exact Or.inl ⟨hknown, (Except.error.inj h).symm⟩
    · intro h
      rcases h with ⟨hunknown, rfl⟩ | ⟨_, hfirst⟩
      · exact walk_cons_of_unknown hunknown _ _
      · exact hfirst.walk_eq

/-- A violation further down the text is reported if it stands less deep. -/
example : validate ⟨"main", [
      .block ["http"] "http" [.directive ["port", "80"] ⟨5, 13⟩] ⟨0, 14⟩,
      .directive ["port"] ⟨14, 19⟩]⟩ "main" =
    .error (.wrongArity "port" (.exactly 1) 0 ⟨14, 19⟩) := by
  cbv

end Waymark.Config
