import Mathlib
import Waymark.Proofs.Server.Tabulation
import Waymark.Proofs.Tree.Order

/-!
# Waymark.Proofs.Server.LocationTable

The location table of a tree is complete, ordered and free of duplicates, or it is refused
at the first statement that offends.

`declaredLocations` lists the location statements of a tree by going through it once, where
`locationStatements` collects them block by block and sorts them by offset. For a tree that
is read from a text both give one list (`locationStatements_eq`), since there statements
begin in the order in which the tree lists them. What is known about the table of any
statements is then known about the tree (`locationTable_of_parseTree`).
-/

namespace Waymark.Config

/-! ### The location statements of a tree -/

/-- The location statements of the `server` blocks that a statement holds. -/
def servedLocations (s : Statement) : List Statement :=
  (s.body.filter (·.name = "server")).flatMap fun server =>
    server.body.filter (·.name = "location")

/-- The location statements of a tree in the order in which it lists them: those that stand
in no block, and those of the `server` blocks in `http` blocks. -/
def declaredLocations (root : Block) : List Statement :=
  root.statements.flatMap fun s =>
    if s.name = "location" then [s]
    else if s.name = "http" then servedLocations s
    else []

theorem outline_eq_cons (s : Statement) : s.outline = s :: Statement.outlineAll s.body := by
  cases s with
  | directive words span => rfl
  | block words context body span => rw [Statement.outline]; rfl

/-- What is taken from inside each of some chosen statements stands in the order of all. -/
theorem flatMap_sublist_outlineAll {f : Statement → List Statement}
    (hf : ∀ s : Statement, (f s).Sublist s.outline) {chosen statements : List Statement}
    (hchosen : chosen.Sublist statements) :
    (chosen.flatMap f).Sublist (Statement.outlineAll statements) := by
  induction hchosen with
  | slnil => exact .slnil
  | cons s _ ih =>
    rw [Statement.outlineAll]
    exact ih.trans (List.sublist_append_right _ _)
  | cons_cons s _ ih =>
    rw [List.flatMap_cons, Statement.outlineAll]
    exact (hf s).append ih

theorem singleton_sublist_outline (s : Statement) : [s].Sublist s.outline := by
  rw [outline_eq_cons]
  exact (List.nil_sublist _).cons_cons s

theorem outlineAll_body_sublist (s : Statement) :
    (Statement.outlineAll s.body).Sublist s.outline := by
  rw [outline_eq_cons]
  exact List.sublist_cons_self s _

theorem filter_sublist_outlineAll (p : Statement → Bool) (statements : List Statement) :
    (statements.filter p).Sublist (Statement.outlineAll statements) := by
  have h := flatMap_sublist_outlineAll singleton_sublist_outline
    (List.filter_sublist (p := p) (l := statements))
  rwa [List.flatMap_singleton'] at h

theorem servedLocations_sublist (s : Statement) : (servedLocations s).Sublist s.outline := by
  refine List.Sublist.trans ?_ (outlineAll_body_sublist s)
  refine flatMap_sublist_outlineAll (fun server => ?_) List.filter_sublist
  exact (filter_sublist_outlineAll _ _).trans (outlineAll_body_sublist server)

theorem declaredLocations_sublist (root : Block) :
    (declaredLocations root).Sublist root.outline := by
  refine flatMap_sublist_outlineAll (fun s => ?_) (List.Sublist.refl _)
  split
  · exact singleton_sublist_outline s
  · split
    · exact servedLocations_sublist s
    · exact List.nil_sublist _

/-- What is collected from the blocks of a name is collected from the bodies of the
statements of that name. -/
theorem flatMap_blocks (b : Block) (name : String) {α : Type} (f : List Statement → List α)
    (hf : f [] = []) :
    (b.blocks name).flatMap (fun child => f child.statements) =
      (b.find name).flatMap fun s => f s.body := by
  unfold Block.blocks
  induction b.find name with
  | nil => rfl
  | cons s rest ih =>
    cases s with
    | directive words span => simpa [Statement.block?, Statement.body, hf] using ih
    | block words context body span => simpa [Statement.block?, Statement.body] using ih

/-- What is found in the servers of a tree is found in the bodies of their statements. -/
theorem flatMap_servers (root : Block) (name : String) :
    ((root.blocks "http").flatMap (·.blocks "server")).flatMap (·.find name) =
      (root.find "http").flatMap fun http =>
        (http.body.filter (·.name = "server")).flatMap fun server =>
          server.body.filter (·.name = name) := by
  have hserver : ∀ http : Block, (http.blocks "server").flatMap (·.find name) =
      (http.statements.filter (·.name = "server")).flatMap fun server =>
        server.body.filter (·.name = name) := by
    intro http
    exact flatMap_blocks http "server" (·.filter (·.name = name)) rfl
  rw [List.flatMap_assoc]
  simp only [hserver]
  exact flatMap_blocks root "http" (fun statements =>
    (statements.filter (·.name = "server")).flatMap fun server =>
      server.body.filter (·.name = name)) rfl

/-- The statements that `locationStatements` collects, before they are sorted. -/
theorem flatMap_serverBlocks (root : Block) :
    (serverBlocks root).flatMap (·.find "location") =
      root.find "location" ++ (root.find "http").flatMap servedLocations := by
  rw [serverBlocks, List.flatMap_cons, flatMap_servers]
  rfl

theorem serverBlocks_perm (root : Block) :
    ((serverBlocks root).flatMap (·.find "location")).Perm (declaredLocations root) := by
  rw [flatMap_serverBlocks]
  unfold declaredLocations Block.find
  induction root.statements with
  | nil => exact .nil
  | cons s rest ih =>
    rw [List.flatMap_cons]
    by_cases hlocation : s.name = "location"
    · simpa [hlocation] using ih
    · by_cases hhttp : s.name = "http"
      · simp only [hhttp, List.filter_cons]
        exact (List.perm_append_comm_assoc _ _ _).trans (ih.append_left _)
      · simpa [hlocation, hhttp] using ih

/-- **In a tree that is read from a text, going block by block and sorting is going through
the tree once.** -/
theorem locationStatements_eq {source : String} {root : Block} (h : parseTree source = .ok root) :
    locationStatements root = declaredLocations root :=
  mergeSort_eq_of_perm (serverBlocks_perm root)
    ((pairwise_outline h).sublist (declaredLocations_sublist root))

/-! ### The table of a tree -/

variable {H : Type} {registry : Registry H}

/-- With a valid port, resolution depends on the table alone. -/
theorem resolve_of_findPort {root : Block} {port : Nat} (h : findPort root = .ok port) :
    resolve registry root =
      (locationTable registry root).map fun table => ⟨port, inOrder table.values⟩ := by
  unfold resolve findLocations
  rw [h]
  cases locationTable registry root <;> rfl

/-- The table of any tree, whether or not it is read from a text. -/
theorem locationTable_cases (registry : Registry H) (root : Block) :
    (∃ table locations, locationTable registry root = .ok table ∧
      Tabulated registry (locationStatements root) table locations) ∨
    ∃ i error, locationTable registry root = .error error ∧
      FirstOffends registry (locationStatements root) i error :=
  Tabulated.nil.tabulate_cases (locationStatements root)

/-- **The location table.** Take the location statements of a tree that is read from a text,
in source order. The table is built if and only if each of them resolves on its own and no
two have one path; then it holds their locations, and resolution lists these in the order
of the statements. Otherwise the error is that of the first statement that offends. -/
theorem locationTable_of_parseTree (registry : Registry H) {source : String} {root : Block}
    (h : parseTree source = .ok root) :
    ((declaredLocations root).Pairwise fun s t => s.span.start < t.span.start) ∧
    ((∃ table, locationTable registry root = .ok table) ↔
      (∀ s ∈ declaredLocations root, ∃ location, resolveLocation registry 0 s = .ok location) ∧
      (declaredLocations root).Pairwise fun s t => ∀ path, Declares s path → ¬ Declares t path) ∧
    (∀ table, locationTable registry root = .ok table →
      ∃ locations, TableOf registry (declaredLocations root) table locations ∧
        ∀ port, findPort root = .ok port → resolve registry root = .ok ⟨port, locations⟩) ∧
    ∀ error,
      (locationTable registry root = .error error ↔
        ∃ i, FirstOffends registry (declaredLocations root) i error) ∧
      (locationTable registry root = .error error →
        ∀ port, findPort root = .ok port → resolve registry root = .error error) := by
  have hcases := locationTable_cases registry root
  rw [locationStatements_eq h] at hcases
  refine ⟨(pairwise_outline h).sublist (declaredLocations_sublist root), ?_, ?_, ?_⟩
  · rcases hcases with ⟨table, locations, htable, htabulated⟩ | ⟨i, error, herror, hfirst⟩
    · constructor
      · intro _
        exact ⟨htabulated.resolves_alone, htabulated.pairwise_declares⟩
      · intro _
        exact ⟨table, htable⟩
    · constructor
      · rintro ⟨table, htable⟩
        rw [herror] at htable
        cases htable
      · rintro ⟨hresolve, hpairs⟩
        exact absurd hfirst.offends (not_offends hresolve hpairs i error)
  · intro table htable
    rcases hcases with ⟨found, locations, hfound, htabulated⟩ | ⟨i, error, herror, -⟩
    · obtain rfl := Except.ok.inj (hfound.symm.trans htable)
      refine ⟨locations, htabulated.tableOf, fun port hport => ?_⟩
      rw [resolve_of_findPort hport, htable, Except.map, htabulated.inOrder_eq (.refl _)]
    · rw [herror] at htable
      cases htable
  · intro error
    refine ⟨⟨fun herror => ?_, ?_⟩, fun herror port hport => ?_⟩
    · rcases hcases with ⟨table, locations, htable, -⟩ | ⟨i, found, hfound, hfirst⟩
      · rw [herror] at htable
        cases htable
      · obtain rfl := Except.error.inj (hfound.symm.trans herror)
        exact ⟨i, hfirst⟩
    · rintro ⟨i, hfirst⟩
      rcases hcases with ⟨table, locations, htable, htabulated⟩ | ⟨j, found, hfound, hother⟩
      · exact absurd hfirst.offends
          (not_offends htabulated.resolves_alone htabulated.pairwise_declares i error)
      · rw [hfirst.unique hother]
        exact hfound
    · rw [resolve_of_findPort hport, herror]
      rfl

/-- Two locations, one in no block and one in a server: the table sorts them by path, and
resolution lists them in the order of the text. -/
theorem locationTable_of_mixed_layout :
    let registry := Registry.register ({} : Registry Unit) "h" [] fun _ _ => ()
    let source := "location /b h;port 80;http\x7bserver\x7blocation /a/ h;\x7d\x7d"
    ∃ root table locations, parseTree source = .ok root ∧
      locationTable registry root = .ok table ∧ table.keys = ["/a", "/b"] ∧
      TableOf registry (declaredLocations root) table locations ∧
      resolve registry root = .ok ⟨80, locations⟩ := by
  intro registry source
  let inner := Statement.directive ["location", "/a/", "h"] ⟨34, 49⟩
  let root : Block := ⟨"main", [.directive ["location", "/b", "h"] ⟨0, 14⟩,
    .directive ["port", "80"] ⟨14, 22⟩,
    .block ["http"] "http" [.block ["server"] "server" [inner] ⟨27, 50⟩] ⟨22, 51⟩]⟩
  have hparse : parseTree source = .ok root := by cbv
  have hport : findPort root = .ok 80 := by cbv
  have hkeys : (locationTable registry root).map Table.keys = .ok ["/a", "/b"] := by cbv
  obtain ⟨-, -, hbuilt, -⟩ := locationTable_of_parseTree registry hparse
  cases htable : locationTable registry root with
  | error e =>
    rw [htable] at hkeys
    cases hkeys
  | ok table =>
    obtain ⟨locations, htableOf, hresolve⟩ := hbuilt table htable
    rw [htable] at hkeys
    exact ⟨root, table, locations, hparse, htable, Except.ok.inj hkeys, htableOf,
      hresolve 80 hport⟩

end Waymark.Config
