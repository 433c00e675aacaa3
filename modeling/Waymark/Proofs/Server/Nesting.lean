import Waymark.Proofs.Rules.Conformance
import Waymark.Proofs.Server.Layout
import Waymark.Proofs.Token.Quoting

/-!
# Waymark.Proofs.Server.Nesting

The flat and the nested layout say the same.

A port and some locations may stand in no block, or in the `server` block of an `http` block,
where the port has another name. `withPort` lists them, and each stage of loading is computed
on such a list, whatever the locations are:

* the rules of both contexts leave the port alone and see one and the same first fault in the
  locations (`check_withPort`), and below that the blocks to be checked are the same ones
  (`validate_nested`);
* the port that is found is the same (`findPort_nested`), and so are the location statements
  (`declaredLocations_nested`).

Places play no part in this, and neither do the contexts that a tree notes for its blocks: a
text does not show them, and the reader takes them from the statements (`Statement.named`).
-/

namespace Waymark.Config

/-! ### Blocks under the names of their statements -/

namespace Statement

mutual

/-- A statement in which every block, at every depth, bears the name of its statement. -/
def named : Statement → Statement
  | .directive words span => .directive words span
  | .block words _ body span => .block words (words.headD "") (namedAll body) span

/-- Some statements in which every block bears the name of its statement. -/
def namedAll : List Statement → List Statement
  | [] => []
  | s :: rest => s.named :: namedAll rest

end

theorem namedAll_eq_map (statements : List Statement) :
    namedAll statements = statements.map named := by
  induction statements with
  | nil => simp [namedAll]
  | cons s rest ih => simp [namedAll, ih]

@[simp] theorem namedAll_nil : namedAll [] = [] := by rw [namedAll]

@[simp] theorem namedAll_directive (words : List String) (span : Span) (rest : List Statement) :
    namedAll (.directive words span :: rest) = .directive words span :: namedAll rest := by
  simp [namedAll, named]

@[simp] theorem namedAll_block (words : List String) (context : String) (body : List Statement)
    (span : Span) (rest : List Statement) :
    namedAll (.block words context body span :: rest) =
      .block words (words.headD "") (namedAll body) span :: namedAll rest := by
  simp [namedAll, named]

@[simp] theorem words_named (s : Statement) : s.named.words = s.words := by
  cases s <;> simp [named, words]

@[simp] theorem name_named (s : Statement) : s.named.name = s.name := by
  rw [name, name, words_named]

@[simp] theorem isBlock_named (s : Statement) : s.named.isBlock = s.isBlock := by
  cases s <;> simp [named, isBlock, block?]

theorem flattenAll_namedAll (statements : List Statement) :
    flattenAll (namedAll statements) = flattenAll statements := by
  induction statements using list_induction with
  | nil => simp
  | directive words span rest ih => simp [ih]
  | block words context body span rest ihbody ih => simp [ihbody, ih]

theorem outlineAll_namedAll (statements : List Statement) :
    outlineAll (namedAll statements) = (outlineAll statements).map named := by
  induction statements using list_induction with
  | nil => simp
  | directive words span rest ih => simp [ih, named]
  | block words context body span rest ihbody ih => simp [ihbody, ih, named]

/-- A statement that has a word is the context of its block. -/
theorem head?_words_named {s : Statement} (hwords : s.words ≠ []) :
    ∀ child ∈ s.named.block?, s.named.words.head? = some child.context := by
  intro child hchild
  cases s with
  | directive words span => simp [named, block?] at hchild
  | block words context body span =>
    obtain ⟨first, more, rfl⟩ := List.exists_cons_of_ne_nil hwords
    simp only [named, block?, Option.mem_some_iff] at hchild
    subst hchild
    rfl

end Statement

open Statement (bareAll bareAll_eq_map namedAll namedAll_eq_map outlineAll)

/-! ### Texts that stand for some statements -/

/-- A statement can be written down: it has words, and they are words that a text can hold. -/
def Writable (s : Statement) : Prop := s.words ≠ [] ∧ ∀ w ∈ s.words, IsWord w.toList

/-- A text stands for some statements: its tokens, comments left out, are theirs. -/
def Spells (source : String) (statements : List Statement) : Prop :=
  ∃ tokens, tokenize source = .ok tokens ∧
    (significant tokens).map Token.item = Statement.flattenAll statements

theorem spells_iff {source : String} {statements : List Statement} :
    Spells source statements ↔
      (tokenize source).map (fun tokens => (significant tokens).map Token.item) =
        .ok (Statement.flattenAll statements) := by
  unfold Spells
  cases tokenize source <;> simp [Except.map]

/-- Canonical text stands for the statements that are printed. -/
theorem spells_printAll {statements : List Statement}
    (hwords : ∀ s ∈ outlineAll statements, Writable s) :
    Spells (Statement.printAll 0 statements) statements := by
  obtain ⟨tokens, hcut, hitems⟩ := lexes_printAll hwords 0 lexes_nil 0
  rw [List.append_nil] at hcut hitems
  refine ⟨tokens, tokenize_of_cut hcut, ?_⟩
  rw [significant_of_map_item hitems]
  exact hitems

/-- A text that stands for statements with words has their tree, up to places and contexts. -/
theorem Spells.exists_parseTree {source : String} {statements : List Statement}
    (h : Spells source statements) (hne : statements ≠ [])
    (hwords : ∀ s ∈ outlineAll statements, s.words ≠ []) :
    ∃ tree, parseTree source = .ok tree ∧
      tree.bare = ⟨mainContext, bareAll (namedAll statements)⟩ := by
  obtain ⟨tokens, htokens, hitems⟩ := h
  have hwell : Block.WellFormed ⟨mainContext, namedAll statements⟩ := by
    refine ⟨rfl, ?_, ?_, ?_⟩
    · simpa [namedAll_eq_map] using hne
    · intro s hs
      simp only [Block.outline, Statement.outlineAll_namedAll, List.mem_map] at hs
      obtain ⟨t, ht, rfl⟩ := hs
      rw [Statement.words_named]
      exact hwords t ht
    · intro s hs
      simp only [Block.outline, Statement.outlineAll_namedAll, List.mem_map] at hs
      obtain ⟨t, ht, rfl⟩ := hs
      exact Statement.head?_words_named (hwords t ht)
  rw [← Statement.flattenAll_namedAll] at hitems
  obtain ⟨tree, htree, hagrees⟩ := exists_parseTree_of_items hwell htokens hitems
  exact ⟨tree, htree, Block.agrees_iff_bare.mp hagrees⟩

/-! ### The two layouts -/

/-- A directive with a port among some other statements. -/
def withPort (name port : String) (before after : List Statement) : List Statement :=
  before ++ .directive [name, port] ⟨0, 0⟩ :: after

/-- The port and the other statements in no block. -/
def flatLayout (port : String) (before after : List Statement) : List Statement :=
  withPort "port" port before after

/-- The port, under its other name, and the other statements in a server. -/
def nestedLayout (port : String) (before after : List Statement) : List Statement :=
  [.block ["http"] "http"
    [.block ["server"] "server" (withPort "listen" port before after) ⟨0, 0⟩] ⟨0, 0⟩]

variable {port : String} {before after : List Statement}

theorem bareAll_namedAll_withPort (name : String) :
    bareAll (namedAll (withPort name port before after)) =
      withPort name port (bareAll (namedAll before)) (bareAll (namedAll after)) := by
  simp [withPort, namedAll_eq_map, bareAll_eq_map, Statement.named, Statement.bare]

theorem bareAll_namedAll_flatLayout :
    bareAll (namedAll (flatLayout port before after)) =
      flatLayout port (bareAll (namedAll before)) (bareAll (namedAll after)) :=
  bareAll_namedAll_withPort "port"

theorem bareAll_namedAll_nestedLayout :
    bareAll (namedAll (nestedLayout port before after)) =
      nestedLayout port (bareAll (namedAll before)) (bareAll (namedAll after)) := by
  simp [nestedLayout, bareAll_namedAll_withPort]

theorem writable_withPort {name : String} (hname : IsWord name.toList) (hport : IsWord port.toList)
    (h : ∀ s ∈ outlineAll (before ++ after), Writable s) :
    ∀ s ∈ outlineAll (withPort name port before after), Writable s := by
  rw [Statement.outlineAll_append] at h
  obtain ⟨hbefore, hafter⟩ := List.forall_mem_append.mp h
  have hdirective : Writable (.directive [name, port] ⟨0, 0⟩) := by
    simp [Writable, Statement.words, hname, hport]
  rw [withPort, Statement.outlineAll_append, Statement.outlineAll_directive]
  exact List.forall_mem_append.mpr ⟨hbefore, List.forall_mem_cons.mpr ⟨hdirective, hafter⟩⟩

theorem writable_nestedLayout (hport : IsWord port.toList)
    (h : ∀ s ∈ outlineAll (before ++ after), Writable s) :
    ∀ s ∈ outlineAll (nestedLayout port before after), Writable s := by
  have hblock : ∀ name body, IsWord (String.toList name) →
      Writable (.block [name] name body ⟨0, 0⟩) := by
    intro name body hname
    simp [Writable, Statement.words, hname]
  have hinside : ∀ s ∈ outlineAll (withPort "listen" port before after), Writable s :=
    writable_withPort (Or.inl (by decide)) hport h
  simp only [nestedLayout, Statement.outlineAll_block, Statement.outlineAll_nil, List.append_nil]
  exact List.forall_mem_cons.mpr ⟨hblock _ _ (Or.inl (by decide)),
    List.forall_mem_cons.mpr ⟨hblock _ _ (Or.inl (by decide)), hinside⟩⟩

/-- Only blocks with the name of a location. -/
def AllLocations (statements : List Statement) : Prop :=
  ∀ s ∈ statements, s.isBlock = true ∧ s.name = "location"

theorem AllLocations.bareAll_namedAll {statements : List Statement} (h : AllLocations statements) :
    AllLocations (bareAll (namedAll statements)) := by
  intro s hs
  simp only [namedAll_eq_map, bareAll_eq_map, List.map_map, List.mem_map] at hs
  obtain ⟨t, ht, rfl⟩ := hs
  simpa using h t ht

/-! ### The rules -/

/-- What is wrong with the number of arguments of a location. -/
def arityFault? (s : Statement) : Option SchemaError :=
  if s.isBlock && !locationRule.arity.accepts s.args.length then
    some (.wrongArity s.name locationRule.arity s.args.length s.span)
  else none

namespace ContextRules

/-- Where it depends on each statement alone whether it breaks a rule, the first one that does
decides. -/
theorem check_eq_of_violation? {rules : ContextRules} {fault? : Statement → Option SchemaError}
    {statements : List Statement}
    (h : ∀ s ∈ statements, ∀ earlier, rules.violation? earlier s = fault? s)
    (earlier : List Statement) :
    rules.check earlier statements =
      match statements.findSome? fault? with
      | some error => .error error
      | none => .ok () := by
  induction statements generalizing earlier with
  | nil => rfl
  | cons s rest ih =>
    obtain ⟨hfirst, hrest⟩ := List.forall_mem_cons.mp h
    rw [check, hfirst earlier, List.findSome?_cons]
    cases fault? s with
    | some error => rfl
    | none => exact ih hrest _

/-- A context in which a port under some name and locations may stand. -/
structure Hosts (rules : ContextRules) (name : String) : Prop where
  /-- It has rules. -/
  known : rules ∈ schema
  /-- The port takes one argument. -/
  port : ⟨name, .exactly 1⟩ ∈ rules.directives
  /-- Locations may stand there. -/
  location : locationRule ∈ rules.blocks

variable {rules : ContextRules} {name : String}

theorem Hosts.violation?_port (h : rules.Hosts name) (earlier : List Statement) :
    rules.violation? earlier (.directive [name, port] ⟨0, 0⟩) = none := by
  have hrule := (directive?_eq_some_iff h.known).mpr ⟨h.port, rfl⟩
  simp only [violation?, Statement.isBlock, Statement.block?, Statement.name, Statement.words,
    Statement.args, List.headD_cons, hrule]
  rfl

theorem Hosts.violation?_location (h : rules.Hosts name) {s : Statement}
    (hblock : s.isBlock = true) (hname : s.name = "location") (earlier : List Statement) :
    rules.violation? earlier s = arityFault? s := by
  have hrule : rules.block? "location" = some locationRule :=
    (block?_eq_some_iff h.known).mpr ⟨h.location, rfl⟩
  unfold violation? arityFault?
  simp only [hblock, hname, hrule, Bool.true_and]
  cases locationRule.arity.accepts s.args.length <;> rfl

/-- The check of such a context passes over the port. -/
theorem Hosts.check_withPort (h : rules.Hosts name) (hall : AllLocations (before ++ after)) :
    rules.check [] (withPort name port before after) =
      match (before ++ after).findSome? arityFault? with
      | some error => .error error
      | none => .ok () := by
  have hport : arityFault? (.directive [name, port] ⟨0, 0⟩) = none := rfl
  have hskip : (withPort name port before after).findSome? arityFault? =
      (before ++ after).findSome? arityFault? := by
    simp [withPort, List.findSome?_append, hport]
  rw [← hskip]
  refine check_eq_of_violation? (fun s hs earlier => ?_) []
  rw [withPort, List.mem_append, List.mem_cons] at hs
  rcases hs with hs | rfl | hs
  · obtain ⟨hblock, hname⟩ := hall s (List.mem_append_left _ hs)
    exact h.violation?_location hblock hname earlier
  · rw [h.violation?_port, hport]
  · obtain ⟨hblock, hname⟩ := hall s (List.mem_append_right _ hs)
    exact h.violation?_location hblock hname earlier

end ContextRules

/-- A port opens no block. -/
theorem childBlocks_withPort (name : String) :
    childBlocks (withPort name port before after) = childBlocks (before ++ after) := by
  simp [childBlocks, withPort, Statement.block?]

/-- A queue with nothing in it but such a block. -/
theorem walk_withPort {rules : ContextRules} {name : String} (h : rules.Hosts name)
    (hall : AllLocations (before ++ after)) :
    walk [(rules.context, withPort name port before after)] =
      match (before ++ after).findSome? arityFault? with
      | some error => .error error
      | none => walk (childBlocks (before ++ after)) := by
  have hlookup := rulesOf?_eq_some_iff.mpr ⟨h.known, rfl⟩
  rw [walk]
  simp only [hlookup, h.check_withPort hall, childBlocks_withPort, List.nil_append]
  cases (before ++ after).findSome? arityFault? <;> rfl

theorem hosts_main : ContextRules.Hosts ⟨mainContext, [⟨"port", .exactly 1⟩],
    [⟨"http", .exactly 0, true⟩, locationRule], false⟩ "port" :=
  ⟨by simp [schema], by simp, by simp⟩

theorem hosts_server :
    ContextRules.Hosts ⟨"server", [⟨"listen", .exactly 1⟩], [locationRule], false⟩ "listen" :=
  ⟨by simp [schema], by simp, by simp⟩

/-- The walk comes to the server when it has seen the two blocks around it. -/
theorem walk_nestedLayout :
    walk [(mainContext, nestedLayout port before after)] =
      walk [("server", withPort "listen" port before after)] := by
  rw [nestedLayout, walk]
  show walk [("http", [.block ["server"] "server" _ ⟨0, 0⟩])] = _
  rw [walk]
  rfl

/-- **The rules see no difference.** -/
theorem validate_nested (hall : AllLocations (before ++ after)) :
    validate ⟨mainContext, nestedLayout port before after⟩ mainContext =
      validate ⟨mainContext, flatLayout port before after⟩ mainContext := by
  unfold validate
  rw [walk_nestedLayout]
  exact (walk_withPort hosts_server hall).trans (walk_withPort hosts_main hall).symm

/-! ### The server -/

section Server

variable {word name : String} (hall : AllLocations (before ++ after))

theorem name_port : (Statement.directive [word, port] ⟨0, 0⟩).name = word := rfl

include hall

/-- What is not called a location is the port, or not there. -/
theorem filter_withPort_of_ne (hname : name ≠ "location") :
    (withPort word port before after).filter (·.name = name) =
      if word = name then [.directive [word, port] ⟨0, 0⟩] else [] := by
  have hother : ∀ s ∈ before ++ after, ¬ decide (s.name = name) = true := by
    intro s hs heq
    exact hname ((of_decide_eq_true heq).symm.trans (hall s hs).2)
  obtain ⟨hbefore, hafter⟩ := List.forall_mem_append.mp hother
  rw [withPort, List.filter_append, List.filter_cons, name_port,
    List.filter_eq_nil_iff.mpr hbefore, List.filter_eq_nil_iff.mpr hafter]
  simp

/-- The locations are all the others. -/
theorem filter_withPort_location (hword : word ≠ "location") :
    (withPort word port before after).filter (·.name = "location") = before ++ after := by
  have hlocation : ∀ s ∈ before ++ after, decide (s.name = "location") = true := by
    intro s hs
    exact decide_eq_true (hall s hs).2
  obtain ⟨hbefore, hafter⟩ := List.forall_mem_append.mp hlocation
  rw [withPort, List.filter_append, List.filter_cons, name_port,
    List.filter_eq_self.mpr hbefore, List.filter_eq_self.mpr hafter]
  simp [hword]

theorem serverBlocks_flat :
    serverBlocks ⟨mainContext, flatLayout port before after⟩ =
      [⟨mainContext, flatLayout port before after⟩] := by
  have hhttp : (flatLayout port before after).filter (·.name = "http") = [] :=
    filter_withPort_of_ne hall (by decide)
  simp [serverBlocks, Block.blocks, Block.find, hhttp]

omit hall in
theorem serverBlocks_nested :
    serverBlocks ⟨mainContext, nestedLayout port before after⟩ =
      [⟨mainContext, nestedLayout port before after⟩,
        ⟨"server", withPort "listen" port before after⟩] :=
  rfl

/-- **The port that is found is the same.** -/
theorem findPort_nested :
    findPort ⟨mainContext, nestedLayout port before after⟩ =
      findPort ⟨mainContext, flatLayout port before after⟩ := by
  have hflat : portStatements ⟨mainContext, flatLayout port before after⟩ =
      [.directive ["port", port] ⟨0, 0⟩] := by
    have hport : (flatLayout port before after).filter (·.name = "port") = _ :=
      filter_withPort_of_ne hall (by decide)
    rw [portStatements, serverBlocks_flat hall]
    simp [Block.find, hport, mainContext]
  have hnested : portStatements ⟨mainContext, nestedLayout port before after⟩ =
      [.directive ["listen", port] ⟨0, 0⟩] := by
    have hport : (withPort "listen" port before after).filter (·.name = "listen") = _ :=
      filter_withPort_of_ne hall (by decide)
    have hmain : (nestedLayout port before after).filter (·.name = "port") = [] := rfl
    rw [portStatements, serverBlocks_nested]
    simp [Block.find, hport, hmain, mainContext]
  simp only [findPort, hflat, hnested]
  rfl

theorem declaredLocations_flat :
    declaredLocations ⟨mainContext, flatLayout port before after⟩ = before ++ after := by
  have hself : ∀ {statements : List Statement}, AllLocations statements →
      declaredLocations ⟨mainContext, statements⟩ = statements := by
    intro statements h
    unfold declaredLocations
    induction statements with
    | nil => rfl
    | cons s rest ih =>
      obtain ⟨hfirst, hrest⟩ := List.forall_mem_cons.mp h
      rw [List.flatMap_cons, ih hrest, if_pos hfirst.2]
      rfl
  obtain ⟨hbefore, hafter⟩ := List.forall_mem_append.mp hall
  have hsplit : declaredLocations ⟨mainContext, flatLayout port before after⟩ =
      declaredLocations ⟨mainContext, before⟩ ++ declaredLocations ⟨mainContext, after⟩ := by
    simp [declaredLocations, flatLayout, withPort, name_port]
  rw [hsplit, hself hbefore, hself hafter]

theorem declaredLocations_nested :
    declaredLocations ⟨mainContext, nestedLayout port before after⟩ = before ++ after := by
  have hlocations : (withPort "listen" port before after).filter (·.name = "location") =
      before ++ after := filter_withPort_location hall (by decide)
  show (withPort "listen" port before after).filter (·.name = "location") ++ [] ++ [] = _
  rw [hlocations]
  simp

end Server

/-! ### Texts in the two layouts -/

/-- An error without the place that it points at. -/
def LoadError.bare : LoadError → LoadError
  | parsing (.malformed e) => parsing (.malformed e.bare)
  | parsing (.invalid e) => parsing (.invalid e.bare)
  | resolving e => resolving e.bare

/-- Texts that have trees and load alike configure the same server, or are refused in the same
words. -/
theorem LoadsAlike.same_or_refused {H : Type} {registry : Registry H} {a b : String} {tree : Block}
    (h : LoadsAlike (load registry a) (load registry b)) (htree : parseTree a = .ok tree) :
    (∃ config, load registry a = .ok config ∧ load registry b = .ok config) ∨
      ∃ e e', load registry a = .error e ∧ load registry b = .error e' ∧ e.bare = e'.bare ∧
        e.message = e'.message := by
  have hread : ∀ e, load registry a ≠ .error (.parsing (.malformed e)) := by
    intro e he
    rw [load_of_parseTree htree] at he
    cases hvalid : validate tree mainContext with
    | error violation => simp [hvalid] at he
    | ok _ => cases hresolve : resolve registry tree <;> simp [hvalid, hresolve] at he
  generalize load registry a = first at h hread ⊢
  generalize load registry b = second at h ⊢
  cases h with
  | loaded config => exact Or.inl ⟨config, rfl, rfl⟩
  | @malformed e _ _ => exact absurd rfl (hread e)
  | @invalid e e' same message =>
    have hmessage : (ParseError.invalid e).message = (ParseError.invalid e').message := by
      unfold ParseError.message
      dsimp only
      rw [message]
    refine Or.inr ⟨.parsing (.invalid e), .parsing (.invalid e'), rfl, rfl, ?_, hmessage⟩
    simp only [LoadError.bare, same]
  | @unresolved e e' same message =>
    refine Or.inr ⟨.resolving e, .resolving e', rfl, rfl, ?_, message⟩
    simp only [LoadError.bare, same]

section Texts

variable {H : Type} {registry : Registry H} {flat nested : String}

/-- Two texts in the two layouts load alike: their trees fare alike in every stage. -/
theorem loadsAlike_nested (hall : AllLocations (before ++ after)) {tree tree' : Block}
    (hflat : parseTree flat = .ok tree) (hnested : parseTree nested = .ok tree')
    (hbare : tree.bare = ⟨mainContext, flatLayout port before after⟩)
    (hbare' : tree'.bare = ⟨mainContext, nestedLayout port before after⟩) :
    LoadsAlike (load registry flat) (load registry nested) := by
  refine loadsAlike_of_outcomes hflat hnested ?_ ?_
  · have hvalidate : validate tree.bare mainContext = validate tree'.bare mainContext := by
      rw [hbare, hbare', validate_nested hall]
    rw [← validate_bare, ← validate_bare]
    exact hvalidate
  · rw [resolve_bare registry hflat, resolve_bare registry hnested, hbare, hbare',
      findPort_nested hall, declaredLocations_nested hall, declaredLocations_flat hall]

end Texts

/-- **The flat and the nested layout say the same.** Put a port among some locations, whatever
their words and bodies are, and write this down in no block, or with the other name of the port
in a server. Both can be written down, and two texts that say these two things, however they
are laid out, configure the same server with every registry, or are refused for the same reason
in the same words. -/
theorem load_flat_nested {H : Type} (registry : Registry H) {port : String}
    {before after : List Statement} (hport : IsWord port.toList)
    (hall : ∀ s ∈ before ++ after, s.isBlock = true ∧ s.name = "location")
    (hwords : ∀ s ∈ Statement.outlineAll (before ++ after),
      s.words ≠ [] ∧ ∀ w ∈ s.words, IsWord w.toList) :
    Spells (Statement.printAll 0 (flatLayout port before after)) (flatLayout port before after) ∧
    Spells (Statement.printAll 0 (nestedLayout port before after))
      (nestedLayout port before after) ∧
    ∀ flat nested, Spells flat (flatLayout port before after) →
      Spells nested (nestedLayout port before after) →
      (∃ config, load registry flat = .ok config ∧ load registry nested = .ok config) ∨
        ∃ e e', load registry flat = .error e ∧ load registry nested = .error e' ∧
          e.bare = e'.bare ∧ e.message = e'.message := by
  have hflat : ∀ s ∈ outlineAll (flatLayout port before after), Writable s :=
    writable_withPort (Or.inl (by decide)) hport hwords
  have hnested : ∀ s ∈ outlineAll (nestedLayout port before after), Writable s :=
    writable_nestedLayout hport hwords
  refine ⟨spells_printAll hflat, spells_printAll hnested, fun flat nested h h' => ?_⟩
  obtain ⟨tree, htree, hbare⟩ := h.exists_parseTree (by simp [flatLayout, withPort])
    fun s hs => (hflat s hs).1
  obtain ⟨tree', htree', hbare'⟩ := h'.exists_parseTree (by simp [nestedLayout])
    fun s hs => (hnested s hs).1
  rw [bareAll_namedAll_flatLayout] at hbare
  rw [bareAll_namedAll_nestedLayout] at hbare'
  have hlocations : AllLocations (bareAll (namedAll before) ++ bareAll (namedAll after)) := by
    have h := AllLocations.bareAll_namedAll hall
    simpa [namedAll_eq_map, bareAll_eq_map] using h
  exact (loadsAlike_nested hlocations htree htree' hbare hbare').same_or_refused htree

/-- Two locations around the port, one of them with an argument and the other one with a quoted
path, in texts that are laid out differently. -/
theorem load_flat_nested_of_two_locations :
    let registry := (Registry.register ({} : Registry Unit) "g" ["k"] fun _ _ => ()).register
      "h" [] fun _ _ => ()
    let first : Statement :=
      .block ["location", "/a/", "g"] "location" [.directive ["k", "v"] ⟨0, 0⟩] ⟨0, 0⟩
    let second : Statement := .block ["location", "=", "'/;'", "h"] "location" [] ⟨0, 0⟩
    let flat := "location /a/ g\x7bk v;\x7dport 80;# and\nlocation = '/;' h\x7b\x7d"
    let nested :=
      "http\x7bserver\x7blocation /a/ g\x7bk v;\x7d listen 80;location = '/;' h \x7b\x7d\x7d\x7d"
    Spells flat (flatLayout "80" [first] [second]) ∧
      Spells nested (nestedLayout "80" [first] [second]) ∧
      load registry flat = load registry nested ∧
      (load registry nested).map (·.port) = .ok 80 := by
  intro registry first second flat nested
  have hflat : Spells flat (flatLayout "80" [first] [second]) := spells_iff.mpr (by cbv)
  have hnested : Spells nested (nestedLayout "80" [first] [second]) := spells_iff.mpr (by cbv)
  have hport : (load registry flat).map (·.port) = .ok 80 := by cbv
  have hall : ∀ s ∈ [first] ++ [second], s.isBlock = true ∧ s.name = "location" := by
    simp [first, second, Statement.isBlock, Statement.block?, Statement.name, Statement.words]
  have hplain : ∀ w ∈ ["80", "location", "/a/", "g", "k", "v", "=", "h"],
      IsPlainWord w.toList := by
    decide
  have hquoted : IsQuotedWord (quoted '\'' "/;").toList := isQuotedWord_quoted rfl (by decide)
  have hwords : ∀ s ∈ Statement.outlineAll ([first] ++ [second]),
      s.words ≠ [] ∧ ∀ w ∈ s.words, IsWord w.toList := by
    intro s hs
    have hlisted : ∀ words ∈ (Statement.outlineAll ([first] ++ [second])).map Statement.words,
        words ≠ [] ∧ ∀ w ∈ words, w ∈ ["80", "location", "/a/", "g", "k", "v", "=", "h"] ∨
          w = "'/;'" := by
      simp [first, second, Statement.words]
    obtain ⟨hne, hvocabulary⟩ := hlisted s.words (List.mem_map_of_mem hs)
    refine ⟨hne, fun w hw => ?_⟩
    rcases hvocabulary w hw with hw | rfl
    · exact Or.inl (hplain w hw)
    · exact Or.inr hquoted
  obtain ⟨-, -, hsame⟩ := load_flat_nested registry (Or.inl (hplain "80" (by simp))) hall hwords
  refine ⟨hflat, hnested, ?_⟩
  rcases hsame flat nested hflat hnested with ⟨config, hloaded, hloaded'⟩ | ⟨e, -, hrefused, -⟩
  · rw [hloaded] at hport
    rw [hloaded, hloaded']
    exact ⟨rfl, hport⟩
  · rw [hrefused] at hport
    cases hport

end Waymark.Config
