import Waymark.Pattern.Compile
import Waymark.Proofs.Documents.Frame
import Waymark.Proofs.Files.Resolution

/-!
# Waymark.Proofs.Site.PatternLocation

Which file a location with a pattern looks up.

A site and a store are given the path of their location to take it off request paths. They
are not told whether it is a pattern, so the text of a pattern is taken off like any other
path: the whole request path counts only where it does not start with that text
(`lookup_of_pattern_location`), and what is taken off may be names of the file
(`pattern_taken_off`).
-/

namespace Waymark

open Http Config

namespace Path

/-- The file that all of a request path stands for below a directory: the names in it are
pushed onto the directory, and there is none if a piece of it leads up. -/
def whole (directory request : String) : Option String :=
  if ".." ∈ parts request then none
  else some ((namesIn (parts request)).foldl push directory)

/-- Two request paths are refused alike, and otherwise the same names are in them. -/
structure SameNames (request other : String) : Prop where
  /-- Both of them lead up, or neither. -/
  dots : ".." ∈ parts request ↔ ".." ∈ parts other
  /-- What does not lead up has the same names. -/
  names : ".." ∉ parts request → namesIn (parts request) = namesIn (parts other)

variable {location directory request other : String}

theorem below_of_ne_append (h : ∀ rest, request ≠ location ++ rest) :
    below location directory request = whole directory request := by
  rw [below_eq, relative_of_ne_append h, whole]

theorem below_append (location directory rest : String) :
    below location directory (location ++ rest) = whole directory rest := by
  rw [below_eq, relative_append, whole]

/-- Names that are pushed onto a directory can be told from the result. -/
theorem foldl_push_inj {names others : List String} (hnames : ∀ name ∈ names, IsName name)
    (hothers : ∀ name ∈ others, IsName name)
    (h : names.foldl push directory = others.foldl push directory) : names = others := by
  have hcomponents := (components_foldl_push hnames directory).1
  rw [h, (components_foldl_push hothers directory).1] at hcomponents
  exact (List.append_cancel_left hcomponents).symm

/-- **Two request paths stand for the same file** exactly if the same names are in them. -/
theorem whole_eq_iff : whole directory request = whole directory other ↔
    SameNames request other := by
  unfold whole
  by_cases hrequest : ".." ∈ parts request
  · by_cases hother : ".." ∈ parts other
    · simp only [if_pos hrequest, if_pos hother, true_iff]
      exact ⟨iff_of_true hrequest hother, fun h => absurd hrequest h⟩
    · simp only [if_pos hrequest, if_neg hother, reduceCtorEq, false_iff]
      exact fun h => hother (h.dots.mp hrequest)
  · by_cases hother : ".." ∈ parts other
    · simp only [if_neg hrequest, if_pos hother, reduceCtorEq, false_iff]
      exact fun h => hrequest (h.dots.mpr hother)
    · simp only [if_neg hrequest, if_neg hother, Option.some.injEq]
      constructor
      · intro h
        refine ⟨iff_of_false hrequest hother, fun _ => foldl_push_inj ?_ ?_ h⟩
        · exact fun name hname => isName_of_mem_namesIn hrequest hname
        · exact fun name hname => isName_of_mem_namesIn hother hname
      · intro h
        rw [h.names hrequest]

/-- When nothing is lost by taking a location's path off a request path. -/
theorem below_eq_whole_iff :
    below location directory request = whole directory request ↔
      (∀ rest, request ≠ location ++ rest) ∨
        ∃ rest, request = location ++ rest ∧ SameNames rest request := by
  by_cases h : ∃ rest, request = location ++ rest
  · obtain ⟨rest, rfl⟩ := h
    rw [below_append, whole_eq_iff]
    constructor
    · intro hnames
      exact Or.inr ⟨rest, rfl, hnames⟩
    · intro hor
      rcases hor with hnone | ⟨other, heq, hnames⟩
      · exact absurd rfl (hnone rest)
      · obtain rfl : rest = other := by simpa using heq
        exact hnames
  · have hnone : ∀ rest, request ≠ location ++ rest := fun rest hrest => h ⟨rest, hrest⟩
    exact iff_of_true (below_of_ne_append hnone) (Or.inl hnone)

end Path

/-! ### Locations -/

/-- A location is one of a site or of a store: with the handler that answers its requests, the
directory that it names, and the file that the handler looks up for a request path. -/
inductive Location.LooksBelow (l : Location) :
    (handler : Handler) → (directory : String) → (lookup : String → Option String) → Prop where
  /-- A site. -/
  | site {root : String} : l.handler = "StaticHandler" → l.args.get? "root" = some root →
      l.LooksBelow (StaticSite.handler { location := l.path, root })
        root (StaticSite.resolve { location := l.path, root })
  /-- A store. -/
  | store {dataPath stylesheet : String} : l.handler = documentHandlerName →
      l.args.get? "data_path" = some dataPath → l.args.get? "format_path" = some stylesheet →
      l.LooksBelow (DocumentStore.handler ⟨l.path, dataPath, stylesheet⟩)
        dataPath (DocumentStore.resolve ⟨l.path, dataPath, stylesheet⟩)

/-- Whatever the handler, request paths are mapped below the directory alike. -/
theorem Location.LooksBelow.lookup_eq {l : Location} {handler : Handler} {directory : String}
    {lookup : String → Option String} (h : l.LooksBelow handler directory lookup)
    (request : String) : lookup request = Path.below l.path directory request := by
  cases h <;> rfl

/-- The handlers that look up files, as they are registered. -/
theorem get?_fullRegistry :
    fullRegistry.get? "StaticHandler" = some ⟨"StaticHandler", ["root"], fun path args =>
      StaticSite.handler { location := path, root := (args.get? "root").getD "" }⟩ ∧
    fullRegistry.get? documentHandlerName = some
      ⟨documentHandlerName, ["data_path", "format_path"], fun path args =>
        DocumentStore.handler
          ⟨path, (args.get? "data_path").getD "", (args.get? "format_path").getD ""⟩⟩ := by
  constructor
  · rfl
  · rfl

/-- A loaded location that names one of these handlers gives the directory. -/
theorem exists_looksBelow {s : Config.Statement} {l : Location} {request : Request}
    {router : Router} (hgives : Gives fullRegistry s l)
    (hselect : router.select request.uri.path = some l)
    (hhandler : l.handler = "StaticHandler" ∨ l.handler = documentHandlerName) (tree : FileTree) :
    ∃ handler directory lookup, l.LooksBelow handler directory lookup ∧
      Dispatcher.dispatch ⟨router, fullRegistry⟩ request tree = handler request tree := by
  obtain ⟨spec, hspec, hargs⟩ := hgives.exists_spec
  obtain ⟨hsite, hstore⟩ := get?_fullRegistry
  rw [Dispatcher.dispatch_of_select hselect hspec tree]
  rcases hhandler with hname | hname
  · rw [hname, hsite] at hspec
    obtain rfl := Option.some.inj hspec
    have hgiven := (hargs "root").mpr (by simp)
    obtain ⟨root, hroot⟩ := Table.contains_eq_true_iff.mp hgiven
    refine ⟨_, root, _, .site hname hroot, ?_⟩
    simp [hroot]
  · rw [hname, hstore] at hspec
    obtain rfl := Option.some.inj hspec
    have hgiven := (hargs "data_path").mpr (by simp)
    have hsheet := (hargs "format_path").mpr (by simp)
    obtain ⟨dataPath, hdata⟩ := Table.contains_eq_true_iff.mp hgiven
    obtain ⟨stylesheet, hstylesheet⟩ := Table.contains_eq_true_iff.mp hsheet
    refine ⟨_, dataPath, _, .store hname hdata hstylesheet, ?_⟩
    simp [hdata, hstylesheet]

/-- **What a location with a pattern looks up.** When such a location of a site or a store is
selected, its pattern matches the request path, and its handler answers. The file that is
looked up is the one of the whole request path if this does not start with the text of the
pattern, and otherwise the one of what comes after that text. Nothing is lost if and only if
the former is the case, or the same names are left. -/
theorem lookup_of_pattern_location {ε : Type} {compile : PatternCompiler ε} {source : String}
    {config : ServerConfig} {router : Router} (hload : load fullRegistry source = .ok config)
    (hbuild : Router.build compile config.locations = .ok router) {request : Request}
    {l : Location} (hselect : router.select request.uri.path = some l)
    (hpattern : l.kind.isPattern = true)
    (hhandler : l.handler = "StaticHandler" ∨ l.handler = "MarkdownHandler") (tree : FileTree) :
    (∃ test, compile (l.kind = .patternIgnoringCase) l.path = .ok test ∧
      test request.uri.path = true) ∧
    ∃ handler directory lookup, l.LooksBelow handler directory lookup ∧
      Dispatcher.dispatch ⟨router, fullRegistry⟩ request tree = handler request tree ∧
      ((∀ rest, request.uri.path ≠ l.path ++ rest) →
        lookup request.uri.path = Path.whole directory request.uri.path) ∧
      (∀ rest, request.uri.path = l.path ++ rest →
        lookup request.uri.path = Path.whole directory rest) ∧
      (lookup request.uri.path = Path.whole directory request.uri.path ↔
        (∀ rest, request.uri.path ≠ l.path ++ rest) ∨
          ∃ rest, request.uri.path = l.path ++ rest ∧
            Path.SameNames rest request.uri.path) := by
  obtain ⟨i, hchosen⟩ := (select_eq_some_iff hbuild).mp hselect
  have hmem := List.mem_of_getElem? hchosen.place
  obtain ⟨s, hgives⟩ := exists_gives_of_load hload hmem
  obtain ⟨test, htest⟩ := (exists_build_eq_ok_iff compile _).mp ⟨router, hbuild⟩ l hmem hpattern
  have hmatches := (Location.covers_pattern_iff hpattern htest).mp hchosen.found.covers
  obtain ⟨handler, directory, lookup, hlooks, hdispatch⟩ :=
    exists_looksBelow hgives hselect hhandler tree
  refine ⟨⟨test, htest, hmatches⟩, handler, directory, lookup, hlooks, hdispatch, ?_, ?_, ?_⟩
  · intro hnone
    rw [hlooks.lookup_eq, Path.below_of_ne_append hnone]
  · intro rest hrest
    rw [hlooks.lookup_eq, hrest, Path.below_append]
  · rw [hlooks.lookup_eq]
    exact Path.below_eq_whole_iff

/-- What a router selects can be told without looking into it. -/
theorem exists_router_of_map {ε : Type} {compile : PatternCompiler ε} {locations : List Location}
    {path : String} {selected : Option Location}
    (h : (Router.build compile locations).map (·.select path) = .ok selected) :
    ∃ router, Router.build compile locations = .ok router ∧ router.select path = selected := by
  cases hbuild : Router.build compile locations with
  | error fault =>
    rw [hbuild] at h
    cases h
  | ok router =>
    rw [hbuild] at h
    exact ⟨router, rfl, Except.ok.inj h⟩

/-- A pattern that stands further on in a request path: the file is that of the whole path. -/
theorem lookup_of_pattern_within :
    let l : Location := ⟨"/a", .pattern, "StaticHandler", ({} : Arguments).insert "root" "r", 0⟩
    let request : Request := ⟨"GET", ⟨none, none, "/b/a", none⟩, .http11, [], []⟩
    ∃ router handler lookup,
      load fullRegistry "port 1;location ~ /a StaticHandler\x7broot r;\x7d" = .ok ⟨1, [l]⟩ ∧
      Router.build Pattern.compile [l] = .ok router ∧ router.select "/b/a" = some l ∧
      l.LooksBelow handler "r" lookup ∧
      Dispatcher.dispatch ⟨router, fullRegistry⟩ request {} = handler request {} ∧
      lookup "/b/a" = some "r/b/a" := by
  intro l request
  have hload : load fullRegistry "port 1;location ~ /a StaticHandler\x7broot r;\x7d" =
      .ok ⟨1, [l]⟩ := by
    cbv
  have hmap : (Router.build Pattern.compile [l]).map (·.select "/b/a") = .ok (some l) := by cbv
  obtain ⟨router, hbuild, hselect⟩ := exists_router_of_map hmap
  have hfound : router.select request.uri.path = some l := hselect
  obtain ⟨-, handler, directory, lookup, hlooks, hdispatch, hwhole, -⟩ :=
    lookup_of_pattern_location hload hbuild hfound rfl (Or.inl rfl) {}
  have hnone : ∀ rest, "/b/a" ≠ l.path ++ rest := by
    intro rest heq
    simpa [l] using congrArg String.toList heq
  have hroot : directory = "r" := by
    cases hlooks with
    | site _ hget => exact (Option.some.inj hget).symm
    | store hname _ _ => exact absurd hname (by decide)
  subst hroot
  exact ⟨router, handler, lookup, hload, hbuild, hselect, hlooks, hdispatch,
    (hwhole hnone).trans (by decide)⟩

/-- A directory with a file, and another one of the same name next to the directory. -/
def twoFiles : FileTree :=
  { nodes := [(["r"], .directory), (["r", "a"], .directory),
      (["r", "a", "x.txt"], .file (Text.encode "whole")),
      (["r", "x.txt"], .file (Text.encode "cut"))] }

/-- A pattern that a request path starts with: the text is taken off, and another file is sent
than that of the whole path. -/
theorem pattern_taken_off :
    let l : Location := ⟨"/a", .pattern, "StaticHandler", ({} : Arguments).insert "root" "r", 0⟩
    let request : Request := ⟨"GET", ⟨none, none, "/a/x.txt", none⟩, .http11, [], []⟩
    ∃ router, load fullRegistry "port 1;location ~ /a StaticHandler\x7broot r;\x7d" =
        .ok ⟨1, [l]⟩ ∧
      Router.build Pattern.compile [l] = .ok router ∧ router.select "/a/x.txt" = some l ∧
      Path.whole "r" "/a/x.txt" = some "r/a/x.txt" ∧
      StaticSite.resolve { location := "/a", root := "r" } "/a/x.txt" = some "r/x.txt" ∧
      twoFiles.read "r/a/x.txt" = .ok (Text.encode "whole") ∧
      (Dispatcher.dispatch ⟨router, fullRegistry⟩ request twoFiles).1.body =
        some (Text.encode "cut") := by
  intro l request
  have hload : load fullRegistry "port 1;location ~ /a StaticHandler\x7broot r;\x7d" =
      .ok ⟨1, [l]⟩ := by
    cbv
  have hmap : (Router.build Pattern.compile [l]).map (·.select "/a/x.txt") = .ok (some l) := by
    cbv
  obtain ⟨router, hbuild, hselect⟩ := exists_router_of_map hmap
  have hfound : router.select request.uri.path = some l := hselect
  have hdispatch := Dispatcher.dispatch_of_select hfound get?_fullRegistry.1 twoFiles
  refine ⟨router, hload, hbuild, hselect, by decide, by decide, by decide, ?_⟩
  rw [hdispatch]
  decide

end Waymark
