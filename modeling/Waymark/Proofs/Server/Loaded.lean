import Waymark.Config.Load
import Waymark.Proofs.Server.Contract
import Waymark.Proofs.Server.LocationTable

/-!
# Waymark.Proofs.Server.Loaded

What is known about the locations of a configuration that loads.

Each comes from a location statement that gives it (`exists_gives_of_load`), so its path is
not empty, its handler is registered, and its arguments are those that the handler expects,
no more and no fewer.
-/

namespace Waymark.Config

variable {H : Type} {registry : Registry H}

/-- The handler of a location is registered, and its arguments are the expected ones. -/
theorem Gives.exists_spec {s : Statement} {location : Location}
    (h : Gives registry s location) :
    ∃ spec, registry.get? location.handler = some spec ∧
      ∀ keyword, location.args.contains keyword = true ↔ keyword ∈ spec.expected := by
  obtain ⟨word, expected, -, -, hexpected, hfits, hbinds⟩ := h.fitsContract
  rw [Registry.expectedOf?, Option.map_eq_some_iff] at hexpected
  obtain ⟨spec, hspec, rfl⟩ := hexpected
  refine ⟨spec, hspec, fun keyword => ?_⟩
  rw [hbinds.contains_iff hfits.accepted.pairs, hfits.mem_names_iff]

/-! ### Loading -/

theorem Tabulated.exists_gives {done : List Statement} {table : Table Location}
    {locations : List Location} (h : Tabulated registry done table locations)
    {location : Location} (hlocation : location ∈ locations) :
    ∃ s ∈ done, Gives registry s location := by
  induction h with
  | nil => cases hlocation
  | @snoc done table locations s new _ hresolve _ ih =>
    rcases List.mem_append.mp hlocation with hmem | hmem
    · obtain ⟨t, ht, hgives⟩ := ih hmem
      exact ⟨t, List.mem_append_left _ ht, hgives⟩
    · obtain rfl := List.mem_singleton.mp hmem
      exact ⟨s, by simp, (resolveLocation_eq_ok_iff.mp hresolve).1⟩

/-- A text that loads has a tree, which keeps to the rules and resolves. -/
theorem load_eq_ok_iff {source : String} {config : ServerConfig} :
    load registry source = .ok config ↔
      ∃ root, parse source = .ok root ∧ resolve registry root = .ok config := by
  unfold load
  cases parse source with
  | error e => simp [Except.mapError]
  | ok root => cases hresolve : resolve registry root <;> simp [Except.mapError, hresolve]

/-- A tree that resolves has a port, and its locations are those of its table. -/
theorem exists_tabulated_of_resolve {root : Block} {config : ServerConfig}
    (h : resolve registry root = .ok config) :
    ∃ table, findPort root = .ok config.port ∧
      Tabulated registry (locationStatements root) table config.locations := by
  cases hport : findPort root with
  | error e =>
    rw [resolve, hport] at h
    cases h
  | ok port =>
    rw [resolve_of_findPort hport] at h
    rcases locationTable_cases registry root with
      ⟨table, locations, htable, htabulated⟩ | ⟨i, error, herror, -⟩
    · rw [htable] at h
      obtain rfl := Except.ok.inj h
      refine ⟨table, rfl, ?_⟩
      rw [← htabulated.inOrder_eq (.refl _)] at htabulated
      exact htabulated
    · rw [herror] at h
      cases h

/-- The locations of a configuration that loads are those of a table. -/
theorem exists_tabulated_of_load {source : String} {config : ServerConfig}
    (h : load registry source = .ok config) :
    ∃ statements table, Tabulated registry statements table config.locations := by
  obtain ⟨root, -, hresolve⟩ := load_eq_ok_iff.mp h
  obtain ⟨table, -, htabulated⟩ := exists_tabulated_of_resolve hresolve
  exact ⟨locationStatements root, table, htabulated⟩

/-- **Every location that is loaded comes from a statement that gives it.** -/
theorem exists_gives_of_load {source : String} {config : ServerConfig}
    (h : load registry source = .ok config) {location : Location}
    (hlocation : location ∈ config.locations) : ∃ s, Gives registry s location := by
  obtain ⟨statements, table, htabulated⟩ := exists_tabulated_of_load h
  obtain ⟨s, -, hgives⟩ := htabulated.exists_gives hlocation
  exact ⟨s, hgives⟩

end Waymark.Config
