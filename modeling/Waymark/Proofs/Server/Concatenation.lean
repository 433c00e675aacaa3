import Waymark.Proofs.Routing.Reordering
import Waymark.Proofs.Server.Places
import Waymark.Proofs.Token.Joining
import Waymark.Proofs.Tree.Relocation
import Waymark.Proofs.Tree.RoundTrip

/-!
# Waymark.Proofs.Server.Concatenation

Two configuration files in one: a line end between them, and each means what it does by itself.

The tokens of the whole are those of the first file and, later by its length and one byte, those
of the second. They derive the statements of both (`parseTree_join`), so the location statements
are those of the first and then those of the second. The latter stand elsewhere than in their own
file, but where a statement stands decides nothing about the location that it gives
(`mapM_resolveLocation_bare`); only the numbering goes through.
-/

namespace Waymark.Config

open Statement (bareAll relocateAll)

/-! ### Trees -/

theorem relocates_shift (distance : Nat) : Relocates (·.shift distance) := by
  intro a b
  simp only [Span.cover, Span.shift, Span.mk.injEq]
  omega

/-- The tree of two sources with a line end between them. -/
theorem parseTree_join {first second : String} {one two : Block}
    (hfirst : parseTree first = .ok one) (hsecond : parseTree second = .ok two) :
    parseTree (first ++ "\n" ++ second) = .ok ⟨mainContext, one.statements ++
      relocateAll (·.shift (byteLength first.toList + 1)) two.statements⟩ := by
  obtain ⟨tokens, htokens, hderives, hne, -⟩ := parseTree_eq_ok_iff.mp hfirst
  obtain ⟨others, hothers, hmore, -, -⟩ := parseTree_eq_ok_iff.mp hsecond
  refine parseTree_eq_ok_iff.mpr ⟨_, tokenize_join htokens hothers, ?_, ?_, rfl⟩
  · have hshifted := hmore.relocate (relocates_shift (byteLength first.toList + 1))
    rw [← significant_relocate] at hshifted
    rw [significant_append]
    exact hderives.append hshifted
  · exact List.append_ne_nil_of_left_ne_nil hne _

/-! ### Locations -/

theorem declaredLocations_append (context : String) (statements others : List Statement) :
    declaredLocations ⟨context, statements ++ others⟩ =
      declaredLocations ⟨context, statements⟩ ++ declaredLocations ⟨context, others⟩ :=
  List.flatMap_append

/-- Elsewhere a tree has the same location statements, up to places. -/
theorem map_bare_declaredLocations_relocateAll (context : String) (move : Span → Span)
    (statements : List Statement) :
    (declaredLocations ⟨context, relocateAll move statements⟩).map Statement.bare =
      (declaredLocations ⟨context, statements⟩).map Statement.bare := by
  rw [← declaredLocations_bare, ← declaredLocations_bare]
  unfold Block.bare
  rw [Statement.bareAll_relocateAll]

variable {H : Type} {registry : Registry H}

/-- What some statements resolve to does not depend on where they stand. -/
theorem mapM_resolveLocation_bare {order : Nat} {statements : List Statement}
    {locations : List Location} :
    (statements.map Statement.bare).mapM (resolveLocation registry order) = .ok locations ↔
      statements.mapM (resolveLocation registry order) = .ok locations := by
  rw [Outcome.mapM_eq_ok_iff, Outcome.mapM_eq_ok_iff]
  induction statements generalizing locations with
  | nil => simp
  | cons s rest ih =>
    rw [List.map_cons, List.map_cons, List.map_cons, resolveLocation_bare]
    cases locations with
    | nil => simp
    | cons location locations =>
      rw [List.map_cons, List.cons.injEq, List.cons.injEq, ih]
      cases resolveLocation registry order s <;> simp

theorem renumber_concat (locations : List Location) (l : Location) :
    renumber (locations ++ [l]) = renumber locations ++ [l.withOrder locations.length] :=
  List.mapIdx_concat

/-- The locations of a table are what its statements resolve to one by one, numbered. -/
theorem Tabulated.exists_alone {statements : List Statement} {table : Table Location}
    {locations : List Location} (h : Tabulated registry statements table locations) :
    ∃ alone, statements.mapM (resolveLocation registry 0) = .ok alone ∧
      locations = renumber alone := by
  simp only [Outcome.mapM_eq_ok_iff]
  induction h with
  | nil => exact ⟨[], rfl, rfl⟩
  | @snoc done table locations s location hdone hresolve _ ih =>
    obtain ⟨alone, hall, rfl⟩ := ih
    obtain ⟨last, hlast, rfl⟩ := exists_of_resolveLocation_eq_ok hresolve
    have hlength : alone.length = done.length := by
      simpa using (congrArg List.length hall).symm
    refine ⟨alone ++ [last], ?_, ?_⟩
    · rw [List.map_append, List.map_append, hall, List.map_singleton, List.map_singleton, hlast]
    · rw [renumber_concat, hlength]
      rfl

/-- What the location statements of a tree resolve to, one by one, when the tree resolves. -/
theorem exists_alone_of_resolve {root : Block} {config : ServerConfig}
    (h : resolve registry root = .ok config) :
    ∃ alone, (locationStatements root).mapM (resolveLocation registry 0) = .ok alone ∧
      config.locations = renumber alone := by
  obtain ⟨table, -, htabulated⟩ := exists_tabulated_of_resolve h
  exact htabulated.exists_alone

/-- **Joining files joins trees.** Two sources with a line end between them have a tree when each
has one, with the statements of the first as they are and those of the second, at every depth,
later by the length of the first and one byte. So when the whole loads, its locations are what
the location statements of the first and then those of the second resolve to, numbered in that
order. -/
theorem load_join {first second : String} {one two : Block} (hfirst : parseTree first = .ok one)
    (hsecond : parseTree second = .ok two) :
    parseTree (first ++ "\n" ++ second) = .ok ⟨mainContext, one.statements ++
      relocateAll (·.shift (byteLength first.toList + 1)) two.statements⟩ ∧
    ∀ {H : Type} (registry : Registry H) (config : ServerConfig),
      load registry (first ++ "\n" ++ second) = .ok config → ∃ own more,
        (locationStatements one).mapM (resolveLocation registry 0) = .ok own ∧
        (locationStatements two).mapM (resolveLocation registry 0) = .ok more ∧
        config.locations = renumber (own ++ more) := by
  have htree := parseTree_join hfirst hsecond
  refine ⟨htree, fun registry config hload => ?_⟩
  obtain ⟨root, hparse, hresolve⟩ := load_eq_ok_iff.mp hload
  obtain ⟨hroot, -⟩ := parse_eq_ok_iff.mp hparse
  obtain rfl := Except.ok.inj (htree.symm.trans hroot)
  obtain ⟨alone, halone, hlocations⟩ := exists_alone_of_resolve hresolve
  -- the location statements of the whole are those of the two trees, the later ones elsewhere
  rw [locationStatements_eq htree, declaredLocations_append, Outcome.mapM_eq_ok_iff,
    List.map_append] at halone
  obtain ⟨own, more, rfl, hown, hmore⟩ := List.append_eq_map_iff.mp halone
  refine ⟨own, more, ?_, ?_, hlocations⟩
  · rw [locationStatements_eq hfirst]
    exact Outcome.mapM_eq_ok_iff.mpr hown.symm
  · rw [locationStatements_eq hsecond]
    have helsewhere := mapM_resolveLocation_bare.mpr (Outcome.mapM_eq_ok_iff.mpr hmore.symm)
    rw [map_bare_declaredLocations_relocateAll] at helsewhere
    exact mapM_resolveLocation_bare.mp helsewhere

/-- A first file that ends in a comment, and a second one with a location in a server. -/
theorem load_join_after_comment :
    let registry := Registry.register ({} : Registry Unit) "h" [] fun _ _ => ()
    let first := "port 80; location /b h\x7b\x7d # the \x7b rest"
    let second := "http\x7bserver\x7blocation = /a h\x7b\x7d\x7d\x7d"
    let one : Block := ⟨"main", [.directive ["port", "80"] ⟨0, 8⟩,
      .block ["location", "/b", "h"] "location" [] ⟨9, 24⟩]⟩
    let server := fun (http inner location : Span) => Statement.block ["http"] "http"
      [.block ["server"] "server" [.block ["location", "=", "/a", "h"] "location" [] location]
        inner] http
    let two : Block := ⟨"main", [server ⟨0, 31⟩ ⟨5, 30⟩ ⟨12, 29⟩]⟩
    let whole : Block := ⟨"main", one.statements ++ [server ⟨38, 69⟩ ⟨43, 68⟩ ⟨50, 67⟩]⟩
    parseTree first = .ok one ∧ parseTree second = .ok two ∧
      parseTree (first ++ "\n" ++ second) = .ok whole ∧
      ∃ config own more, load registry (first ++ "\n" ++ second) = .ok config ∧
        (locationStatements one).mapM (resolveLocation registry 0) = .ok own ∧
        (locationStatements two).mapM (resolveLocation registry 0) = .ok more ∧
        config.locations = renumber (own ++ more) ∧
        config.locations.map (·.path) = ["/b", "/a"] := by
  intro registry first second one server two whole
  have hfirst : parseTree first = .ok one := by cbv
  have hsecond : parseTree second = .ok two := by cbv
  obtain ⟨htree, hjoin⟩ := load_join hfirst hsecond
  have hlength : byteLength first.toList = 37 := by cbv
  have hwhole : parseTree (first ++ "\n" ++ second) = .ok whole := by
    rw [htree, hlength]
    simp [whole, two, server, Statement.relocate, Span.shift, mainContext]
  have hvalid : validate whole mainContext = .ok () := by cbv
  have hpaths : (resolve registry whole).map (·.locations.map (·.path)) = .ok ["/b", "/a"] := by
    cbv
  cases hresolve : resolve registry whole with
  | error e =>
    rw [hresolve] at hpaths
    cases hpaths
  | ok config =>
    rw [hresolve] at hpaths
    have hload := load_eq_ok_iff.mpr ⟨whole, parse_eq_ok_iff.mpr ⟨hwhole, hvalid⟩, hresolve⟩
    obtain ⟨own, more, hown, hmore, hlocations⟩ := hjoin registry config hload
    exact ⟨hfirst, hsecond, hwhole, config, own, more, hload, hown, hmore, hlocations,
      Except.ok.inj hpaths⟩

end Waymark.Config
