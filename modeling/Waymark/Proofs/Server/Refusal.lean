import Waymark.Proofs.Server.Shape

/-!
# Waymark.Proofs.Server.Refusal

Why a tree configures no server, and which of the reasons are left once the rules hold.

* `PortFault` says for each error about ports what was found, as `LocationFault` does for those
  about locations, and `fault_of_resolve` that the resolver reports nothing else, whatever the
  tree;
* a text that keeps to the rules has an `Admitted` tree, in which the resolver does not meet
  again what the rules exclude (`load_relies_on_rules`).
-/

namespace Waymark.Config

/-! ### The errors of the resolver -/

/-- Why the port statements of a tree give no port. -/
inductive PortFault (statements : List Statement) : ResolveError → Prop where
  /-- There are none. -/
  | missing : statements = [] → PortFault statements .missingPort
  /-- There is a second one. -/
  | again {first second rest} : statements = first :: second :: rest →
      PortFault statements (.duplicatePort second.span)
  /-- The only one has too few or too many words, or its word is no number of a port. -/
  | invalid {s} : statements = [s] → (∀ word, s.args = [word] → readPort? word = none) →
      PortFault statements (.invalidPort (" ".intercalate s.args) s.span)

theorem fault_of_findPort {root : Block} {error : ResolveError} (h : findPort root = .error error) :
    PortFault (portStatements root) error := by
  unfold findPort at h
  match hstatements : portStatements root with
  | [] =>
    rw [hstatements] at h
    obtain rfl := Except.error.inj h
    exact .missing rfl
  | first :: second :: rest =>
    rw [hstatements] at h
    obtain rfl := Except.error.inj h
    exact .again rfl
  | [s] =>
    rw [hstatements] at h
    dsimp only at h
    split at h
    · next word hargs =>
      split at h
      · cases h
      · next hport =>
        obtain rfl := Except.error.inj h
        refine .invalid rfl fun other hother => ?_
        obtain rfl : word = other := by simpa [hargs] using hother
        exact hport
    · next hargs =>
      obtain rfl := Except.error.inj h
      exact .invalid rfl fun word hword => absurd hword (hargs word)

variable {H : Type}

/-- **The errors of the resolver**, whatever the tree: the port statements are at fault, or a
location statement is, or it has a path that is taken. -/
theorem fault_of_resolve {registry : Registry H} {root : Block} {error : ResolveError}
    (h : resolve registry root = .error error) :
    PortFault (portStatements root) error ∨
      ∃ s ∈ locationStatements root,
        LocationFault registry s error ∨ ∃ path, error = .duplicateLocation path s.span := by
  cases hport : findPort root with
  | error e =>
    rw [resolve, hport] at h
    obtain rfl := Except.error.inj h
    exact Or.inl (fault_of_findPort hport)
  | ok port =>
    rw [resolve_of_findPort hport] at h
    rcases locationTable_cases registry root with
      ⟨table, locations, htable, -⟩ | ⟨i, found, hfound, hfirst⟩
    · rw [htable] at h
      cases h
    · rw [hfound] at h
      obtain rfl := Except.error.inj h
      obtain ⟨s, hs, hrefused⟩ := hfirst.offends
      refine Or.inr ⟨s, List.mem_of_getElem? hs, ?_⟩
      rcases hrefused with hresolve | ⟨location, -, -, hduplicate⟩
      · exact Or.inl (fault_of_resolveLocation hresolve)
      · exact Or.inr ⟨location.path, hduplicate⟩

/-! ### The errors of loading -/

/-- The first violation below known contexts is one of a statement, not of a context. -/
theorem FirstViolation.ne_unknownContext {blocks : List (String × List Statement)}
    {error : SchemaError} (h : FirstViolation blocks error) (context : String) :
    error ≠ .unknownContext context := by
  obtain ⟨depth, -, hfirst⟩ := h
  cases hfirst with
  | intro _ _ _ _ hbreaks => cases hbreaks <;> simp

/-- The contexts of a tree that is checked from the top are known as far as the check gets. -/
theorem parse_ne_unknownContext {source context : String} :
    parse source ≠ .error (.invalid (.unknownContext context)) := by
  intro hparse
  unfold parse at hparse
  cases htree : parseTree source with
  | error e => simp [htree] at hparse
  | ok root =>
    cases hvalid : validate root mainContext with
    | ok _ => simp [htree, hvalid] at hparse
    | error e =>
      obtain rfl : e = .unknownContext context := by simpa [htree, hvalid] using hparse
      have hknown : ∀ block ∈ [(mainContext, root.statements)], block.1 ∈ knownContexts := by
        simp [knownContexts]
      exact (firstViolation_of_walk hknown hvalid).ne_unknownContext context rfl

theorem load_eq_parsing_iff {registry : Registry H} {source : String} {error : ParseError} :
    load registry source = .error (.parsing error) ↔ parse source = .error error := by
  unfold load
  cases parse source with
  | error e => simp
  | ok root => cases hresolve : resolve registry root <;> simp [hresolve]

theorem load_eq_resolving_iff {registry : Registry H} {source : String} {error : ResolveError} :
    load registry source = .error (.resolving error) ↔
      ∃ root, parse source = .ok root ∧ resolve registry root = .error error := by
  unfold load
  cases parse source with
  | error e => simp
  | ok root => cases hresolve : resolve registry root <;> simp [hresolve]

/-! ### What the rules leave -/

/-- Of an admitted tree the resolver never reports the words of a location, -/
theorem Admitted.ne_malformedLocation {registry : Registry H} {root : Block} (h : Admitted root)
    (span : Span) : resolve registry root ≠ .error (.malformedLocation span) := by
  intro hresolve
  rcases fault_of_resolve hresolve with hport | ⟨s, hs, hlocation | ⟨path, heq⟩⟩
  · cases hport
  · obtain ⟨-, hargs, -⟩ := h.locations s hs
    cases hlocation with
    | words htwo hthree => exact hargs.elim htwo hthree
    | argument _ _ hfault => cases hfault
  · cases heq

/-- of its port no more than that its one word is no number of a port, -/
theorem Admitted.exists_of_invalidPort {registry : Registry H} {root : Block} (h : Admitted root)
    {value : String} {span : Span}
    (hresolve : resolve registry root = .error (.invalidPort value span)) :
    ∃ s, portStatements root = [s] ∧ s.args = [value] ∧ s.span = span ∧
      readPort? value = none := by
  rcases fault_of_resolve hresolve with hport | ⟨s, -, hlocation | ⟨path, heq⟩⟩
  · cases hport with
    | @invalid s hstatements hvalue =>
      obtain ⟨-, hlength⟩ := h.ports s (by simp [hstatements])
      obtain ⟨word, hargs⟩ := List.length_eq_one_iff.mp hlength
      have hword : " ".intercalate s.args = word := by
        rw [hargs]
        exact String.intercalate_singleton
      rw [hword]
      exact ⟨s, hstatements, hargs, rfl, hvalue word hargs⟩
  · cases hlocation with
    | argument _ _ hfault => cases hfault
  · cases heq

/-- and of an argument no more than the number of its words. -/
theorem Admitted.exists_of_malformedArgument {registry : Registry H} {root : Block}
    (h : Admitted root) {span : Span}
    (hresolve : resolve registry root = .error (.malformedArgument span)) :
    ∃ s ∈ locationStatements root, ∃ t ∈ s.body,
      t.span = span ∧ t.isBlock = false ∧ t.words.length ≠ 2 := by
  rcases fault_of_resolve hresolve with hport | ⟨s, hs, hlocation | ⟨path, heq⟩⟩
  · cases hport
  · obtain ⟨-, -, hplain⟩ := h.locations s hs
    cases hlocation with
    | @argument _ _ _ t _ _ ht hfault =>
      cases hfault with
      | malformed hshape =>
        have hdirective := hplain t ht
        exact ⟨s, hs, t, ht, rfl, hdirective, hshape.resolve_left (by simp [hdirective])⟩
  · cases heq

/-- **What the rules admit, the resolver can rely on.** A text that keeps to the rules has a
tree with at most one `http` and at most one `server` block at any depth, in which every
location and every port that is found has the shape that the resolver expects. So loading
never reports a context without rules or the words of a location; an invalid port is the one
word of the only port, and a malformed argument is a directive that has not two words. -/
theorem load_relies_on_rules (registry : Registry H) (source : String) :
    (∀ root, parse source = .ok root → Admitted root) ∧
    (∀ context, load registry source ≠ .error (.parsing (.invalid (.unknownContext context)))) ∧
    (∀ span, load registry source ≠ .error (.resolving (.malformedLocation span))) ∧
    (∀ value span, load registry source = .error (.resolving (.invalidPort value span)) →
      ∃ root s, parse source = .ok root ∧ portStatements root = [s] ∧ s.args = [value] ∧
        s.span = span ∧ readPort? value = none) ∧
    (∀ span, load registry source = .error (.resolving (.malformedArgument span)) →
      ∃ root, parse source = .ok root ∧ ∃ s ∈ locationStatements root, ∃ t ∈ s.body,
        t.span = span ∧ t.isBlock = false ∧ t.words.length ≠ 2) := by
  refine ⟨fun root => admitted_of_parse, ?_, ?_, ?_, ?_⟩
  · intro context hload
    exact parse_ne_unknownContext (load_eq_parsing_iff.mp hload)
  · intro span hload
    obtain ⟨root, hparse, hresolve⟩ := load_eq_resolving_iff.mp hload
    exact (admitted_of_parse hparse).ne_malformedLocation span hresolve
  · intro value span hload
    obtain ⟨root, hparse, hresolve⟩ := load_eq_resolving_iff.mp hload
    obtain ⟨s, hs⟩ := (admitted_of_parse hparse).exists_of_invalidPort hresolve
    exact ⟨root, s, hparse, hs⟩
  · intro span hload
    obtain ⟨root, hparse, hresolve⟩ := load_eq_resolving_iff.mp hload
    exact ⟨root, hparse, (admitted_of_parse hparse).exists_of_malformedArgument hresolve⟩

/-- An argument of three words. -/
theorem malformed_argument_of_three_words :
    let registry := Registry.register ({} : Registry Unit) "h" [] fun _ _ => ()
    let source := "port 80;location /a h\x7bk v w;\x7d"
    load registry source = .error (.resolving (.malformedArgument ⟨22, 28⟩)) ∧
      ∃ root, parse source = .ok root ∧ ∃ s ∈ locationStatements root, ∃ t ∈ s.body,
        t.span = ⟨22, 28⟩ ∧ t.isBlock = false ∧ t.words.length ≠ 2 := by
  intro registry source
  have hload : load registry source = .error (.resolving (.malformedArgument ⟨22, 28⟩)) := by cbv
  obtain ⟨-, -, -, -, hargument⟩ := load_relies_on_rules registry source
  exact ⟨hload, hargument _ hload⟩

end Waymark.Config
