import Waymark.Dispatcher
import Waymark.Pattern.Compile
import Waymark.Proofs.Routing.Selection
import Waymark.Proofs.Server.Loaded

/-!
# Waymark.Proofs.Routing.Dispatch

A configuration that loads is served as written.

The router takes a match of length zero for none, and the registry is asked for a handler
only when a request has come. Neither can go wrong for loaded locations: their paths are
not empty and their handlers are registered (`Waymark.Proofs.Server.Loaded`), so whatever
covers a request path also matches it, and whatever is selected can be made.
-/

namespace Waymark

open Http Config

variable {ε : Type} {compile : PatternCompiler ε} {registry : Registry Handler}

theorem Registry.create?_of_get? {l : Location} {spec : HandlerSpec Handler}
    (h : registry.get? l.handler = some spec) :
    registry.create? l = some (spec.make l.path l.args) := by
  rw [create?, maker?, h]
  rfl

/-- A request whose location is selected is answered by that location's handler. -/
theorem Dispatcher.dispatch_of_select {router : Router} {request : Request} {l : Location}
    {spec : HandlerSpec Handler} (hselect : router.select request.uri.path = some l)
    (hspec : registry.get? l.handler = some spec) (tree : FileTree) :
    dispatch ⟨router, registry⟩ request tree = spec.make l.path l.args request tree := by
  unfold dispatch
  rw [hselect]
  dsimp only
  rw [Registry.create?_of_get? hspec]

/-- A request for which none is selected is answered by the handler for errors, or not at
all. -/
theorem Dispatcher.dispatch_of_select_eq_none {router : Router} {request : Request}
    (hselect : router.select request.uri.path = none) (tree : FileTree) :
    dispatch ⟨router, registry⟩ request tree =
      match registry.get? errorHandlerName with
      | some spec => spec.make request.uri.path {} request tree
      | none => (.notFound, tree) := by
  unfold dispatch
  rw [hselect]
  dsimp only
  unfold fallback Registry.maker?
  cases registry.get? errorHandlerName <;> rfl

section Loaded

variable {source : String} {config : ServerConfig} {router : Router}

/-- A loaded location can be matched. -/
theorem reach_ne_zero_of_load (hload : load registry source = .ok config) {l : Location}
    (hl : l ∈ config.locations) : l.reach ≠ 0 := by
  obtain ⟨s, hgives⟩ := exists_gives_of_load hload hl
  intro hreach
  exact hgives.path_ne_empty (Location.reach_eq_zero_iff.mp hreach).2

/-- **A configuration that loads is served as written.** If some location covers the path
of a request, then one that does is selected, and the handler that the registry makes for
it, of its path and of exactly the arguments that it expects, answers the request. If none
does, the handler for errors answers, and without one the answer is that nothing is
there. -/
theorem dispatch_of_load (hload : load registry source = .ok config)
    (hbuild : Router.build compile config.locations = .ok router) (request : Request)
    (tree : FileTree) :
    (∀ l ∈ config.locations, l.reach ≠ 0) ∧
    ((∃ l ∈ config.locations, l.Covers compile request.uri.path) →
      ∃ i l spec, IsChosen compile config.locations request.uri.path i l ∧
        router.select request.uri.path = some l ∧
        registry.get? l.handler = some spec ∧
        (∀ keyword, l.args.contains keyword = true ↔ keyword ∈ spec.expected) ∧
        Dispatcher.dispatch ⟨router, registry⟩ request tree =
          spec.make l.path l.args request tree) ∧
    ((∀ l ∈ config.locations, ¬ l.Covers compile request.uri.path) →
      (∀ spec, registry.get? errorHandlerName = some spec →
        Dispatcher.dispatch ⟨router, registry⟩ request tree =
          spec.make request.uri.path {} request tree) ∧
      (registry.get? errorHandlerName = none →
        Dispatcher.dispatch ⟨router, registry⟩ request tree = (.notFound, tree))) := by
  refine ⟨fun l hl => reach_ne_zero_of_load hload hl, ?_, ?_⟩
  · rintro ⟨covering, hmem, hcovers⟩
    rcases select_cases hbuild request.uri.path with ⟨-, hnone⟩ | ⟨i, l, hselect, hchosen⟩
    · exact absurd ⟨hcovers, reach_ne_zero_of_load hload hmem⟩ (hnone covering hmem)
    · obtain ⟨s, hgives⟩ := exists_gives_of_load hload (List.mem_of_getElem? hchosen.place)
      obtain ⟨spec, hspec, hargs⟩ := hgives.exists_spec
      exact ⟨i, l, spec, hchosen, hselect, hspec, hargs,
        Dispatcher.dispatch_of_select hselect hspec tree⟩
  · intro hnone
    have hselect : router.select request.uri.path = none := by
      rw [select_eq_none_iff hbuild]
      exact fun l hl hmatch => hnone l hl hmatch.covers
    rw [Dispatcher.dispatch_of_select_eq_none hselect]
    refine ⟨fun spec hspec => ?_, fun hmissing => ?_⟩
    · rw [hspec]
    · rw [hmissing]

/-- A request for a path below a loaded location is answered by its handler, which is given
the location's path and the argument. -/
theorem dispatch_below_loaded_location :
    let tell : String → Arguments → Handler := fun path args request tree =>
      (.plain 200 (path ++ "," ++ (args.get? "k").getD "" ++ "," ++ request.method), tree)
    let registry : Registry Handler := Registry.register {} "h" ["k"] tell
    let l : Location := ⟨"/a", .standardPrefix, "h", ({} : Arguments).insert "k" "v", 0⟩
    let request : Request := ⟨"GET", ⟨none, none, "/a/b", none⟩, .http11, [], []⟩
    ∃ router, load registry "port 1;location /a/ h\x7bk v;\x7d" = .ok ⟨1, [l]⟩ ∧
      Router.build Pattern.compile [l] = .ok router ∧
      Dispatcher.dispatch ⟨router, registry⟩ request {} = (.plain 200 "/a,v,GET", {}) := by
  intro tell registry l request
  have hload : load registry "port 1;location /a/ h\x7bk v;\x7d" = .ok ⟨1, [l]⟩ := by cbv
  obtain ⟨router, hbuild⟩ := (exists_build_eq_ok_iff Pattern.compile [l]).mpr (by
    intro m hm hkind
    obtain rfl : m = l := by simpa using hm
    cases hkind)
  obtain ⟨-, hcovered, -⟩ := dispatch_of_load hload hbuild request {}
  obtain ⟨i, m, spec, hchosen, -, hspec, -, hdispatch⟩ :=
    hcovered ⟨l, by simp, .beginning (Or.inr rfl) (by decide)⟩
  obtain rfl : m = l := by simpa using List.mem_of_getElem? hchosen.place
  obtain rfl : (⟨"h", ["k"], tell⟩ : HandlerSpec Handler) = spec := by
    have hget : registry.get? "h" = some ⟨"h", ["k"], tell⟩ := by cbv
    exact Option.some.inj (hget.symm.trans hspec)
  exact ⟨router, hload, hbuild, hdispatch⟩

end Loaded

end Waymark
