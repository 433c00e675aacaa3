import Waymark.DocumentStore
import Waymark.Proofs.Files.Tree
import Waymark.StaticSite

/-!
# Waymark.Proofs.Files.Resolution

Where request paths lead: below the directory of their location, or nowhere.

`IsRelative` says what is left of a request path at a location, and `Splits` how a text is
divided at its slashes; neither computes anything, and each has one solution
(`isRelative_iff`, `splits_iff`). With them `resolve_below_root` states which file a request path
stands for. That this file is below the directory of the location is meant literally: in
every file tree the path leads to a place that begins with the one of the directory
(`exists_locate_of_foldl_push`).
-/

namespace Waymark

open Waymark.Path (IsName)

/-! ### Request paths -/

namespace Path

/-- What is left of a request path at a location: what comes after the location's path, or
all of it when it does not start with that. -/
inductive IsRelative (location : String) : (request rest : String) → Prop where
  /-- The request path starts with the location's. -/
  | after (rest : String) : IsRelative location (location ++ rest) rest
  /-- It does not. -/
  | whole {request : String} : (∀ rest, request ≠ location ++ rest) →
      IsRelative location request request

theorem relative_append (location rest : String) : relative location (location ++ rest) = rest := by
  apply String.toList_inj.mp
  simp [relative]

theorem relative_of_ne_append {location request : String}
    (h : ∀ rest, request ≠ location ++ rest) : relative location request = request := by
  rw [relative, if_neg]
  intro hprefix
  obtain ⟨cs, hcs⟩ := List.isPrefixOf_iff_prefix.mp hprefix
  refine h (String.ofList cs) (String.toList_inj.mp ?_)
  rw [String.toList_append, String.toList_ofList, hcs]

theorem isRelative_iff {location request rest : String} :
    IsRelative location request rest ↔ rest = relative location request := by
  constructor
  · intro h
    cases h with
    | after rest => rw [relative_append]
    | whole hother => rw [relative_of_ne_append hother]
  · rintro rfl
    by_cases h : ∃ rest, request = location ++ rest
    · obtain ⟨rest, rfl⟩ := h
      rw [relative_append]
      exact .after rest
    · have hother : ∀ rest, request ≠ location ++ rest := fun rest hrest => h ⟨rest, hrest⟩
      rw [relative_of_ne_append hother]
      exact .whole hother

/-- The pieces of a text between its slashes. -/
structure Splits (text : String) (pieces : List String) : Prop where
  /-- There is always one. -/
  ne_nil : pieces ≠ []
  /-- No slash is in one. -/
  no_slash : ∀ piece ∈ pieces, '/' ∉ piece.toList
  /-- With slashes between them they make up the text. -/
  joined : "/".intercalate pieces = text

theorem splits_iff {text : String} {pieces : List String} :
    Splits text pieces ↔ pieces = parts text := by
  constructor
  · rintro ⟨hne, hslash, rfl⟩
    exact (parts_intercalate hne hslash).symm
  · rintro rfl
    refine ⟨parts_ne_nil text, ?_, intercalate_parts text⟩
    intro piece hpiece hslash
    exact (mem_of_mem_parts hpiece hslash).2 rfl

/-- The pieces of a text that are names. -/
def namesIn (pieces : List String) : List String :=
  pieces.filter fun piece => piece ≠ "" && piece ≠ "."

theorem isName_of_mem_namesIn {text name : String} (hdots : ".." ∉ parts text)
    (h : name ∈ namesIn (parts text)) : IsName name := by
  refine isName_of_mem_segments h ?_
  rintro rfl
  exact hdots (List.mem_filter.mp h).1

/-- A request path is refused if one of its pieces leads up, and otherwise its names are
pushed onto the directory. -/
theorem below_eq (location root request : String) :
    below location root request =
      if ".." ∈ parts (relative location request) then none
      else some ((namesIn (parts (relative location request))).foldl push root) := by
  have hdots : (segments (relative location request)).contains ".." = true ↔
      ".." ∈ parts (relative location request) := by
    simp [segments]
  unfold below
  dsimp only
  by_cases h : ".." ∈ parts (relative location request)
  · rw [if_pos (hdots.mpr h), if_pos h]
  · rw [if_neg (fun hc => h (hdots.mp hc)), if_neg h]
    rfl

end Path

/-! ### Places below a place -/

namespace FileTree

variable {tree : FileTree} {root name : String} {place : Place}

/-- A walk whose last part is a name leads from a directory to the entry of that name. -/
theorem exists_walk_of_append_name {first : Place} {parts : List String} (hname : IsName name)
    (h : tree.walk first (parts ++ [name]) = .ok place) :
    ∃ base, tree.walk first parts = .ok base ∧ tree.node? base = some .directory ∧
      place = base ++ [name] := by
  rw [walk_append] at h
  cases hbase : tree.walk first parts with
  | error error =>
    rw [hbase] at h
    cases h
  | ok base =>
    rw [hbase] at h
    have hnames : ∀ other ∈ [name], IsName other := by simpa using hname
    obtain ⟨hplace, -, hopen⟩ := (walk_names_eq_ok_iff hnames).mp h
    exact ⟨base, rfl, (onWay_cons_iff.mp hopen).1, hplace⟩

/-- A path that has a file name leads to a place of that name. -/
theorem getLast?_of_locate {path : String} (hname : Path.fileName? path = some name)
    (h : tree.locate path = .ok place) : place.getLast? = some name := by
  obtain ⟨hfits, hne⟩ := fits_of_locate h
  obtain ⟨hisName, before, after, hparts, hafter⟩ := Path.exists_parts_of_fileName? hname
  have hsplit : before ++ name :: after = before ++ [name] ++ after := by simp
  rw [locate_of_fits hfits hne, hparts, hsplit, walk_append] at h
  cases hreached : tree.walk (start path) (before ++ [name]) with
  | error error =>
    rw [hreached] at h
    cases h
  | ok reached =>
    rw [hreached] at h
    obtain ⟨base, -, -, rfl⟩ := exists_walk_of_append_name hisName hreached
    rw [eq_of_walk hafter h, List.getLast?_concat]

/-- A name that is pushed leads one step further, from where the path led before. -/
theorem exists_locate_of_push (hname : IsName name) (hroot : root ≠ "")
    (h : tree.locate (Path.push root name) = .ok place) :
    ∃ base, tree.locate root = .ok base ∧ place = base ++ [name] := by
  obtain ⟨more, hmore⟩ := Path.exists_push_eq_append hname root
  obtain ⟨hfits, hne⟩ := fits_of_locate h
  have hfitsRoot : Fits root := by
    rw [hmore] at hfits
    have hshort := hfits.short
    rw [String.utf8ByteSize_append] at hshort
    exact ⟨fun hnul => hfits.no_nul (by simp [hnul]), by omega⟩
  rw [locate_of_fits hfits hne, start, Path.isAbsolute_push hname, ← start] at h
  rw [locate_of_fits hfitsRoot hroot]
  -- before the name stand the parts of the root, but for an empty one at their end
  by_cases hslash : root.toList.getLast? = some '/'
  · obtain ⟨before, rfl⟩ := Path.exists_eq_append_slash hslash
    rw [Path.push_slash hname, Path.parts_append_slash, hname.parts_eq] at h
    obtain ⟨base, hwalk, hdirectory, hplace⟩ := exists_walk_of_append_name hname h
    refine ⟨base, ?_, hplace⟩
    rw [Path.parts_append_slash, walk_append, hwalk]
    show tree.walk base [""] = .ok base
    rw [walk_cons, hdirectory]
    rfl
  · rw [Path.push_other hname hroot hslash, Path.parts_append_slash, hname.parts_eq] at h
    obtain ⟨base, hwalk, -, hplace⟩ := exists_walk_of_append_name hname h
    exact ⟨base, hwalk, hplace⟩

/-- **Names that are pushed lead below the place of the path they are pushed onto**, by
induction over the names. An empty path stands for the working directory then. -/
theorem exists_locate_of_foldl_push {names : List String} (hnames : ∀ n ∈ names, IsName n)
    (h : tree.locate (names.foldl Path.push root) = .ok place) :
    ∃ base, (tree.locate root = .ok base ∨ root = "" ∧ base = []) ∧ place = base ++ names := by
  induction names generalizing root with
  | nil => exact ⟨place, Or.inl h, (List.append_nil _).symm⟩
  | cons name names ih =>
    have hname := hnames name List.mem_cons_self
    obtain ⟨base, hbase, rfl⟩ := ih (fun n hn => hnames n (List.mem_cons_of_mem name hn)) h
    have hsplit : ∀ first : Place, first ++ [name] ++ names = first ++ name :: names :=
      fun first => by rw [List.append_assoc, List.singleton_append]
    by_cases hroot : root = ""
    · subst hroot
      rw [Path.push_empty hname] at hbase
      refine ⟨[], Or.inr ⟨rfl, rfl⟩, ?_⟩
      rcases hbase with hlocate | ⟨hempty, -⟩
      · obtain ⟨hfits, hne⟩ := fits_of_locate hlocate
        have hname' : ∀ other ∈ [name], IsName other := by simpa using hname
        rw [locate_of_fits hfits hne, hname.parts_eq, walk_names_eq_ok_iff hname', start,
          hname.isAbsolute_eq] at hlocate
        rw [hlocate.1]
        exact hsplit []
      · exact absurd hempty hname.ne_empty
    · obtain ⟨more, hmore⟩ := Path.exists_push_eq_append hname root
      rcases hbase with hlocate | ⟨hempty, -⟩
      · obtain ⟨first, hfirst, rfl⟩ := exists_locate_of_push hname hroot hlocate
        exact ⟨first, Or.inl hfirst, hsplit first⟩
      · rw [hmore] at hempty
        exact absurd (String.append_eq_empty_iff.mp hempty).1 hroot

end FileTree

/-! ### Sites and stores -/

/-- **A request path leads below the directory of its location or nowhere, and for a site and
a store alike.** Take what is left of it at the location and the pieces of that between the
slashes. It is refused if and only if one of the pieces is `..`. Otherwise it stands for the
directory with the names among the pieces pushed onto it one by one: the components of the
path are those of the directory and these names, it is absolute if the directory's path is,
and wherever it leads in a file tree is below where that leads. -/
theorem resolve_below_root (location root request : String) (index : List String)
    (stylesheet : String) :
    ∃ rest pieces, (∀ other, Path.IsRelative location request other ↔ other = rest) ∧
      (∀ others, Path.Splits rest others ↔ others = pieces) ∧
      (StaticSite.resolve ⟨location, root, index⟩ request = none ↔ ".." ∈ pieces) ∧
      (∀ path, StaticSite.resolve ⟨location, root, index⟩ request = some path →
        path = (Path.namesIn pieces).foldl Path.push root ∧
        (∀ name ∈ Path.namesIn pieces, IsName name) ∧
        Path.components path = Path.components root ++ Path.namesIn pieces ∧
        Path.isAbsolute path = Path.isAbsolute root ∧
        ∀ (tree : FileTree) (place : Place), tree.locate path = .ok place →
          ∃ base, (tree.locate root = .ok base ∨ root = "" ∧ base = []) ∧
            place = base ++ Path.namesIn pieces) ∧
      DocumentStore.resolve ⟨location, root, stylesheet⟩ request =
        StaticSite.resolve ⟨location, root, index⟩ request := by
  have hresolve : StaticSite.resolve ⟨location, root, index⟩ request = _ :=
    Path.below_eq location root request
  refine ⟨Path.relative location request, Path.parts (Path.relative location request),
    fun other => Path.isRelative_iff, fun others => Path.splits_iff, ?_, ?_, rfl⟩
  · rw [hresolve]
    split <;> simp_all
  · intro path hpath
    rw [hresolve] at hpath
    split at hpath
    · cases hpath
    · next hdots =>
      obtain rfl := Option.some.inj hpath
      have hnames : ∀ name ∈ Path.namesIn (Path.parts (Path.relative location request)),
          IsName name := fun _ hname => Path.isName_of_mem_namesIn hdots hname
      obtain ⟨hcomponents, habsolute⟩ := Path.components_foldl_push hnames root
      exact ⟨rfl, hnames, hcomponents, habsolute,
        fun tree place hlocate => FileTree.exists_locate_of_foldl_push hnames hlocate⟩

end Waymark
