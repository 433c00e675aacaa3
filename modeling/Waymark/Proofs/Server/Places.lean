import Waymark.Proofs.Rules.Places
import Waymark.Proofs.Server.LocationTable

/-!
# Waymark.Proofs.Server.Places

Where the statements of a tree stand decides nothing about the server that it configures, as
long as they stand in the order in which the tree lists them.

The location statements are collected block by block and sorted by offset, so offsets do count
for trees in general. For one that is read from a text the sorted list is
`declaredLocations`, which is defined without them; from there on a place is only copied
into errors (`resolve_bare`).
-/

namespace Waymark.Config

open Statement (bareAll bareAll_eq_map)

/-- A fault of a tree without its place. -/
def ResolveError.bare : ResolveError → ResolveError
  | missingPort => missingPort
  | duplicatePort _ => duplicatePort ⟨0, 0⟩
  | invalidPort value _ => invalidPort value ⟨0, 0⟩
  | malformedLocation _ => malformedLocation ⟨0, 0⟩
  | unknownModifier modifier _ => unknownModifier modifier ⟨0, 0⟩
  | emptyPath _ => emptyPath ⟨0, 0⟩
  | duplicateLocation path _ => duplicateLocation path ⟨0, 0⟩
  | unknownHandler handler _ => unknownHandler handler ⟨0, 0⟩
  | malformedArgument _ => malformedArgument ⟨0, 0⟩
  | duplicateArgument keyword _ => duplicateArgument keyword ⟨0, 0⟩
  | unexpectedArgument handler keyword _ => unexpectedArgument handler keyword ⟨0, 0⟩
  | missingArguments handler missing _ => missingArguments handler missing ⟨0, 0⟩

/-! ### Blocks -/

theorem Block.find_bare (b : Block) (name : String) :
    b.bare.find name = (b.find name).map Statement.bare := by
  unfold find bare
  rw [bareAll_eq_map, List.filter_map]
  congr 1
  exact List.filter_congr fun s _ => by rw [Function.comp_apply, Statement.name_bare]

theorem Block.blocks_bare (b : Block) (name : String) :
    b.bare.blocks name = (b.blocks name).map Block.bare := by
  unfold blocks
  rw [find_bare, List.filterMap_map, List.map_filterMap]
  congr 1
  funext s
  rw [Function.comp_apply, Statement.block?_bare]
  rfl

theorem serverBlocks_bare (root : Block) :
    serverBlocks root.bare = (serverBlocks root).map Block.bare := by
  unfold serverBlocks
  rw [Block.blocks_bare, List.flatMap_map, List.map_cons, List.map_flatMap]
  congr 2
  funext b
  exact b.blocks_bare "server"

/-! ### The port -/

theorem portStatements_bare (root : Block) :
    portStatements root.bare = (portStatements root).map Statement.bare := by
  unfold portStatements
  rw [serverBlocks_bare, List.flatMap_map, List.map_flatMap]
  congr 1
  funext b
  exact b.find_bare _

theorem findPort_bare (root : Block) :
    findPort root.bare = (findPort root).mapError (·.bare) := by
  unfold findPort
  rw [portStatements_bare]
  rcases portStatements root with _ | ⟨s, _ | ⟨t, rest⟩⟩
  · rfl
  · simp only [List.map_cons, List.map_nil, Statement.args_bare, Statement.span_bare]
    split
    · split <;> rfl
    · rfl
  · simp [ResolveError.bare]

/-! ### Locations -/

theorem Statement.body_bare (s : Statement) : s.bare.body = bareAll s.body := by
  unfold body
  rw [block?_bare]
  cases s.block? <;> simp

theorem servedLocations_bare (s : Statement) :
    servedLocations s.bare = (servedLocations s).map Statement.bare := by
  have hfilter : ∀ (name : String) (statements : List Statement),
      (bareAll statements).filter (·.name = name) =
        (statements.filter (·.name = name)).map Statement.bare :=
    fun name statements => Block.find_bare ⟨"", statements⟩ name
  unfold servedLocations
  rw [Statement.body_bare, hfilter, List.flatMap_map, List.map_flatMap]
  congr 1
  funext server
  rw [Statement.body_bare, hfilter]

theorem declaredLocations_bare (root : Block) :
    declaredLocations root.bare = (declaredLocations root).map Statement.bare := by
  unfold declaredLocations Block.bare
  rw [bareAll_eq_map, List.flatMap_map, List.map_flatMap]
  congr 1
  funext s
  rw [Statement.name_bare]
  split
  · rfl
  · split
    · exact servedLocations_bare s
    · rfl

theorem readArguments_bare (handler : String) (expected : List String) (args : Arguments)
    (body : List Statement) :
    readArguments handler expected args (bareAll body) =
      (readArguments handler expected args body).mapError (·.bare) := by
  induction body generalizing args with
  | nil => rfl
  | cons s rest ih =>
    rw [bareAll, readArguments, readArguments, Statement.isBlock_bare, Statement.words_bare,
      Statement.span_bare]
    split
    · split
      · rfl
      · split
        · rfl
        · exact ih _
    · rfl

theorem locationHead_bare (s : Statement) :
    locationHead s.bare = (locationHead s).mapError (·.bare) := by
  unfold locationHead
  rw [Statement.args_bare, Statement.span_bare]
  split
  · rfl
  · split <;> rfl
  · rfl

variable {H : Type} (registry : Registry H)

theorem resolveLocation_bare (order : Nat) (s : Statement) :
    resolveLocation registry order s.bare =
      (resolveLocation registry order s).mapError (·.bare) := by
  unfold resolveLocation
  rw [locationHead_bare, Statement.span_bare, Statement.body_bare]
  cases locationHead s with
  | error e => rfl
  | ok head =>
    obtain ⟨kind, word, handler⟩ := head
    simp only [Outcome.mapError_ok, Outcome.ok_bind]
    by_cases hpath : unquote word = ""
    · simp [hpath, ResolveError.bare]
    · cases registry.expectedOf? handler with
      | none => simp [hpath, ResolveError.bare]
      | some expected =>
        simp only [hpath, if_false, readArguments_bare]
        cases readArguments handler expected {} s.body with
        | error e => rfl
        | ok args =>
          simp only [Outcome.mapError_ok, Outcome.ok_bind]
          split <;> rfl

theorem tabulate_bare (order : Nat) (table : Table Location) (statements : List Statement) :
    tabulate registry order table (statements.map Statement.bare) =
      (tabulate registry order table statements).mapError (·.bare) := by
  induction statements generalizing order table with
  | nil => rfl
  | cons s rest ih =>
    rw [List.map_cons, tabulate, tabulate, resolveLocation_bare, Statement.span_bare]
    cases resolveLocation registry order s with
    | error e => rfl
    | ok location =>
      simp only [Outcome.mapError_ok, Outcome.ok_bind]
      by_cases hbound : table.contains location.path = true
      · simp [hbound, ResolveError.bare]
      · simp [hbound, ih]

/-- **What a text resolves to, up to places, is up to its tree without places.** -/
theorem resolve_bare {source : String} {root : Block} (h : parseTree source = .ok root) :
    (resolve registry root).mapError (·.bare) = findPort root.bare >>= fun port =>
      (tabulate registry 0 {} (declaredLocations root.bare)).map fun table =>
        ⟨port, inOrder table.values⟩ := by
  rw [findPort_bare, declaredLocations_bare, tabulate_bare, ← locationStatements_eq h]
  cases hport : findPort root with
  | error e =>
    rw [resolve, hport]
    rfl
  | ok port =>
    rw [resolve_of_findPort hport, locationTable]
    cases tabulate registry 0 {} (locationStatements root) <;> rfl

end Waymark.Config
