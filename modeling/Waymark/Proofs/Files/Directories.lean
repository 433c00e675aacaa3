import Waymark.Proofs.Files.Tree

/-!
# Waymark.Proofs.Files.Directories

Making the directories above a file.

A directory and those above it are made from the top down, after an attempt from the bottom
up has found which are missing. `ensure` is the attempt at one of them.

* `AddsDirectories` is the frame, which holds of any tree and any path, also of an attempt
  that fails on its way: what was there is there still, and all that is new are directories
  where one of the paths leads;
* `makeDirectories_of_notBarred` is the success: names that lead through no file end up as
  directories.
-/

namespace Waymark.FileTree

open Waymark.Path (IsName ofNames)

/-! ### One directory -/

theorem makeDirectory_of_locate {tree : FileTree} {path : String} {place : Place}
    (h : tree.locate path = .ok place) :
    tree.makeDirectory path =
      match tree.node? place with
      | some _ => .error .alreadyExists
      | none => .ok (tree.set place .directory) := by
  rw [makeDirectory, h]
  rfl

theorem makeDirectory_of_locate_eq_error {tree : FileTree} {path : String} {error : FileError}
    (h : tree.locate path = .error error) : tree.makeDirectory path = .error error := by
  rw [makeDirectory, h]
  rfl

/-- Make a directory, unless it exists. -/
def ensure (tree : FileTree) (path : String) : FileTree × Option FileError :=
  match tree.makeDirectory path with
  | .ok made => (made, none)
  | .error error => (tree, if tree.isDirectory path then none else some error)

theorem isDirectory_of_locate {tree : FileTree} {path : String} {place : Place}
    (h : tree.locate path = .ok place) (hplace : tree.node? place = some .directory) :
    tree.isDirectory path = true := by
  rw [isDirectory, stat_eq_ok_iff.mpr ⟨place, h, hplace⟩]

/-- An attempt adds one directory, where nothing was and the path leads, or nothing. -/
theorem ensure_cases (tree : FileTree) (path : String) :
    (∃ place, tree.locate path = .ok place ∧ tree.node? place = none ∧
      ensure tree path = (tree.set place .directory, none)) ∨
    ∃ error?, ensure tree path = (tree, error?) := by
  unfold ensure
  cases hlocate : tree.locate path with
  | error e =>
    rw [makeDirectory_of_locate_eq_error hlocate]
    exact Or.inr ⟨_, rfl⟩
  | ok place =>
    rw [makeDirectory_of_locate hlocate]
    cases hnode : tree.node? place with
    | some node => exact Or.inr ⟨_, rfl⟩
    | none => exact Or.inl ⟨place, rfl, hnode, rfl⟩

/-- Where a path leads to no file, an attempt leaves a directory. -/
theorem ensure_of_locate {tree : FileTree} {path : String} {place : Place}
    (h : tree.locate path = .ok place)
    (hfile : ∀ content, tree.node? place ≠ some (.file content)) :
    (ensure tree path).2 = none ∧ (ensure tree path).1.node? place = some .directory := by
  rw [ensure, makeDirectory_of_locate h]
  cases hnode : tree.node? place with
  | none =>
    refine ⟨rfl, ?_⟩
    dsimp only
    rw [node?_set (isBase_eq_false_of_none hnode), if_pos rfl]
  | some node =>
    cases node with
    | file content => exact absurd hnode (hfile content)
    | directory =>
      dsimp only
      rw [if_pos (isDirectory_of_locate h hnode)]
      exact ⟨rfl, hnode⟩

/-! ### All of them -/

section Steps

variable {tree : FileTree} {absolute : Bool} {name : String} {parents : List String}

/-- If something above is missing, what is above is made first. -/
theorem makeDirectories_of_notFound
    (h : tree.makeDirectory (ofNames absolute (name :: parents).reverse) = .error .notFound) :
    tree.makeDirectories absolute (name :: parents) =
      match tree.makeDirectories absolute parents with
      | (made, some error) => (made, some error)
      | (made, none) => ensure made (ofNames absolute (name :: parents).reverse) := by
  unfold ofNames at h
  rw [makeDirectories]
  dsimp only
  rw [h]
  dsimp only
  cases tree.makeDirectories absolute parents with
  | mk made error? =>
    cases error? with
    | some error => rfl
    | none =>
      unfold ensure ofNames
      rfl

/-- Otherwise one attempt decides. -/
theorem makeDirectories_of_ne_notFound
    (h : tree.makeDirectory (ofNames absolute (name :: parents).reverse) ≠ .error .notFound) :
    tree.makeDirectories absolute (name :: parents) =
      ensure tree (ofNames absolute (name :: parents).reverse) := by
  unfold ofNames at h ⊢
  rw [makeDirectories, ensure]
  dsimp only
  cases hmade : tree.makeDirectory
      ((if absolute then "/" else "") ++ "/".intercalate (name :: parents).reverse) with
  | ok made => rfl
  | error error =>
    cases error with
    | notFound => exact absurd hmade h
    | _ => rfl

end Steps

/-! ### What is added -/

/-- The second tree has all that the first one has, and otherwise only directories, each
where one of some paths leads. -/
structure AddsDirectories (paths : String → Prop) (before after : FileTree) : Prop where
  /-- What was there is there still. -/
  keeps : Keeps before after
  /-- What is new is a directory. -/
  added : ∀ place node, before.node? place = none → after.node? place = some node →
    node = .directory ∧ ∃ path, paths path ∧ after.locate path = .ok place

namespace AddsDirectories

variable {paths others : String → Prop} {first second third : FileTree}

theorem refl (paths : String → Prop) (tree : FileTree) : AddsDirectories paths tree tree where
  keeps := .refl tree
  added := by
    intro place node hnone hnode
    rw [hnone] at hnode
    cases hnode

theorem mono (h : AddsDirectories paths first second) (hpaths : ∀ path, paths path → others path) :
    AddsDirectories others first second where
  keeps := h.keeps
  added := by
    intro place node hnone hnode
    obtain ⟨hdirectory, path, hpath, hlocate⟩ := h.added place node hnone hnode
    exact ⟨hdirectory, path, hpaths path hpath, hlocate⟩

theorem trans (h : AddsDirectories paths first second)
    (h' : AddsDirectories paths second third) : AddsDirectories paths first third where
  keeps := h.keeps.trans h'.keeps
  added := by
    intro place node hnone hnode
    cases hsecond : second.node? place with
    | none => exact h'.added place node hsecond hnode
    | some found =>
      obtain ⟨hdirectory, path, hpath, hlocate⟩ := h.added place found hnone hsecond
      have hsame := h'.keeps place found hsecond
      obtain rfl := Option.some.inj (hnode.symm.trans hsame)
      exact ⟨hdirectory, path, hpath, h'.keeps.locate hlocate⟩

theorem ensure {path : String} (hpath : paths path) (tree : FileTree) :
    AddsDirectories paths tree (ensure tree path).1 := by
  rcases ensure_cases tree path with ⟨place, hlocate, hnone, heq⟩ | ⟨error?, heq⟩
  · rw [heq]
    have hputs : Puts tree place .directory _ :=
      node?_set (isBase_eq_false_of_none hnone) tree .directory
    have hkeeps := hputs.keeps hnone
    refine ⟨hkeeps, fun other node hbefore hafter => ?_⟩
    dsimp only at hafter
    rw [hputs other] at hafter
    split at hafter
    · next hsame =>
      rw [hsame]
      exact ⟨(Option.some.inj hafter).symm, path, hpath, hkeeps.locate hlocate⟩
    · rw [hbefore] at hafter
      cases hafter
  · rw [heq]
    exact .refl paths tree

/-- No file has been added. -/
theorem file_of_file (h : AddsDirectories paths first second) {place : Place} {content : Bytes}
    (hfile : second.node? place = some (.file content)) :
    first.node? place = some (.file content) := by
  cases hfirst : first.node? place with
  | none =>
    obtain ⟨hdirectory, -⟩ := h.added place _ hfirst hfile
    cases hdirectory
  | some node =>
    have hkept := h.keeps place node hfirst
    rw [← hkept, hfile]

/-- The files are the same. -/
theorem files_eq (h : AddsDirectories paths first second) : second.files = first.files := by
  funext place
  refine Option.ext fun content => ?_
  rw [files_eq_some_iff, files_eq_some_iff]
  exact ⟨h.file_of_file, h.keeps place _⟩

end AddsDirectories

/-- **The frame of making directories**, whether or not it succeeds. -/
theorem makeDirectories_adds (tree : FileTree) (absolute : Bool) (names : List String) :
    AddsDirectories
      (fun path => ∃ down, down ≠ [] ∧ down <:+ names ∧ path = ofNames absolute down.reverse)
      tree (tree.makeDirectories absolute names).1 := by
  -- the induction is that of the definition; an error higher up leaves what `ih` says
  induction names with
  | nil => exact .refl _ tree
  | cons name parents ih =>
    have hself : ∃ down, down ≠ [] ∧ down <:+ name :: parents ∧
        ofNames absolute (name :: parents).reverse = ofNames absolute down.reverse :=
      ⟨name :: parents, List.cons_ne_nil _ _, List.suffix_rfl, rfl⟩
    have hparents : AddsDirectories
        (fun path => ∃ down, down ≠ [] ∧ down <:+ name :: parents ∧
          path = ofNames absolute down.reverse)
        tree (tree.makeDirectories absolute parents).1 := by
      refine ih.mono ?_
      rintro path ⟨down, hne, hsuffix, hpath⟩
      exact ⟨down, hne, hsuffix.trans (List.suffix_cons name parents), hpath⟩
    by_cases hmissing : tree.makeDirectory (ofNames absolute (name :: parents).reverse) =
        .error .notFound
    · rw [makeDirectories_of_notFound hmissing]
      cases hmade : tree.makeDirectories absolute parents with
      | mk made error? =>
        rw [hmade] at hparents
        cases error? with
        | some error => exact hparents
        | none => exact hparents.trans (.ensure hself made)
    · rw [makeDirectories_of_ne_notFound hmissing]
      exact .ensure hself tree

/-- A path leads to one of the directories above another one. -/
def IsAbove (path other : String) : Prop :=
  ∃ names, names ≠ [] ∧ names <+: (Path.components path).dropLast ∧
    other = ofNames (Path.isAbsolute path) names

theorem makeParents_adds (tree : FileTree) (path : String) :
    AddsDirectories (IsAbove path) tree (tree.makeParents path).1 := by
  refine (makeDirectories_adds tree _ _).mono ?_
  rintro other ⟨down, hne, hsuffix, hother⟩
  refine ⟨down.reverse, by simpa using hne, ?_, hother⟩
  have hinitial := List.reverse_prefix.mpr hsuffix
  rwa [List.reverse_reverse] at hinitial

theorem WellFormed.ensure {tree : FileTree} (h : WellFormed tree) (path : String) :
    WellFormed (ensure tree path).1 := by
  rcases ensure_cases tree path with ⟨place, hlocate, hnone, heq⟩ | ⟨error?, heq⟩
  · rw [heq]
    exact h.puts_of_locate hlocate hnone (node?_set (isBase_eq_false_of_none hnone) tree _)
  · rw [heq]
    exact h

theorem WellFormed.makeDirectories {tree : FileTree} (h : WellFormed tree) (absolute : Bool)
    (names : List String) : WellFormed (tree.makeDirectories absolute names).1 := by
  induction names with
  | nil => exact h
  | cons name parents ih =>
    by_cases hmissing : tree.makeDirectory (ofNames absolute (name :: parents).reverse) =
        .error .notFound
    · rw [makeDirectories_of_notFound hmissing]
      cases hmade : tree.makeDirectories absolute parents with
      | mk made error? =>
        rw [hmade] at ih
        cases error? with
        | some error => exact ih
        | none => exact ih.ensure _
    · rw [makeDirectories_of_ne_notFound hmissing]
      exact h.ensure _

/-! ### What is made -/

section Made

variable {absolute : Bool}

/-- Ordinary names are followed from their beginning. -/
theorem locate_ofNames {names : List String} (hne : names ≠ [])
    (hnames : ∀ name ∈ names, IsName name) (hfits : Fits (ofNames absolute names))
    (tree : FileTree) :
    tree.locate (ofNames absolute names) = tree.walk (beginning absolute) names := by
  rw [locate_plain (Path.isPlain_ofNames absolute hne hnames) hfits, start,
    Path.isAbsolute_ofNames absolute hne hnames, Path.components_ofNames absolute hne hnames]

/-- An attempt below directories leaves one more, where no file is. -/
theorem ensure_of_openTo {tree : FileTree} {names : List String} (hne : names ≠ [])
    (hnames : ∀ name ∈ names, IsName name) (hshort : ∀ name ∈ names, name.utf8ByteSize ≤ 255)
    (hfits : Fits (ofNames absolute names)) (hopen : OpenTo tree (beginning absolute) names)
    (hfile : ∀ content, tree.node? (beginning absolute ++ names) ≠ some (.file content))
    (next : String) :
    (ensure tree (ofNames absolute names)).2 = none ∧
      OpenTo (ensure tree (ofNames absolute names)).1 (beginning absolute) (names ++ [next]) := by
  have hlocate : tree.locate (ofNames absolute names) = .ok (beginning absolute ++ names) := by
    rw [locate_ofNames hne hnames hfits, walk_names_eq_ok_iff hnames]
    exact ⟨rfl, hshort, hopen⟩
  obtain ⟨hnone, hmade⟩ := ensure_of_locate hlocate hfile
  refine ⟨hnone, onWay_concat_iff.mpr ⟨?_, hmade⟩⟩
  have hkeeps := (@AddsDirectories.ensure (fun _ => True) (ofNames absolute names) trivial tree).keeps
  exact fun before name rest hrest => hkeeps _ _ (hopen before name rest hrest)

/-- **Names that lead through no file end up as directories.** The names stand last first;
`next` is what is looked for in the last directory. -/
theorem makeDirectories_of_notBarred {tree : FileTree} {names : List String}
    (hnames : ∀ name ∈ names, IsName name) (hshort : ∀ name ∈ names, name.utf8ByteSize ≤ 255)
    (hfits : ∀ down, down ≠ [] → down <:+ names → Fits (ofNames absolute down.reverse))
    (next : String)
    (hfree : NotBarred tree (beginning absolute) (names.reverse ++ [next])) :
    (tree.makeDirectories absolute names).2 = none ∧
      OpenTo (tree.makeDirectories absolute names).1 (beginning absolute)
        (names.reverse ++ [next]) := by
  induction names generalizing next with
  | nil =>
    refine ⟨rfl, ?_⟩
    rw [List.reverse_nil, List.nil_append, OpenTo, onWay_cons_iff]
    exact ⟨node?_of_isBase (isBase_beginning absolute) _, onWay_nil _ _ _⟩
  | cons name parents ih =>
    obtain ⟨hfreeAbove, hfile⟩ := onWay_concat_iff.mp hfree
    have hne : (name :: parents).reverse ≠ [] := by simp
    have hnames' : ∀ n ∈ (name :: parents).reverse, IsName n := fun n hn =>
      hnames n (List.mem_reverse.mp hn)
    have hshort' : ∀ n ∈ (name :: parents).reverse, n.utf8ByteSize ≤ 255 := fun n hn =>
      hshort n (List.mem_reverse.mp hn)
    have hfits' := hfits (name :: parents) (List.cons_ne_nil _ _) List.suffix_rfl
    have hlocate := locate_ofNames hne hnames' hfits' tree
    rcases walk_names_of_notBarred hnames' hshort' hfreeAbove with hwalk | hwalk
    · -- all that is above exists
      rw [hwalk] at hlocate
      have hopen := ((walk_names_eq_ok_iff hnames').mp hwalk).2.2
      rw [makeDirectories_of_ne_notFound]
      · exact ensure_of_openTo hne hnames' hshort' hfits' hopen hfile next
      · rw [makeDirectory_of_locate hlocate]
        split <;> simp
    · -- something above is missing, and made first
      rw [hwalk] at hlocate
      rw [makeDirectories_of_notFound (makeDirectory_of_locate_eq_error hlocate)]
      have hsuffix := List.suffix_cons name parents
      rw [List.reverse_cons] at hfreeAbove
      obtain ⟨hnone, hopen⟩ := ih (fun n hn => hnames n (List.mem_cons_of_mem name hn))
        (fun n hn => hshort n (List.mem_cons_of_mem name hn))
        (fun down hdown hsub => hfits down hdown (hsub.trans hsuffix)) name hfreeAbove
      have hadds := makeDirectories_adds tree absolute parents
      cases hmade : tree.makeDirectories absolute parents with
      | mk made error? =>
        rw [hmade] at hnone hopen hadds
        obtain rfl := hnone
        rw [← List.reverse_cons] at hopen
        exact ensure_of_openTo hne hnames' hshort' hfits' hopen
          (fun content hcontent => hfile content (hadds.file_of_file hcontent)) next

end Made

/-- What a path begins with fits if the path does. -/
theorem fits_ofNames {path : String} (h : Fits path) (hplain : Path.IsPlain path)
    {names : List String} (hne : names ≠ []) (hinitial : names <+: Path.components path) :
    Fits (ofNames (Path.isAbsolute path) names) := by
  have hnames : ∀ name ∈ names, IsName name := fun name hname =>
    hplain.isName (hinitial.subset hname)
  have hparts := Path.parts_ofNames (Path.isAbsolute path) hne hnames
  -- all parts of the shorter path are parts of the longer one, so nothing is added to it
  have hsublist : (Path.parts (ofNames (Path.isAbsolute path) names)).Sublist
      (Path.parts path) := by
    rw [hparts]
    exact ((List.Sublist.refl _).append hinitial.sublist).trans (Path.components_sublist path)
  constructor
  · intro hnul
    rcases Path.mem_parts_of_mem hnul with hslash | ⟨part, hpart, hmem⟩
    · exact absurd hslash (by decide)
    · exact h.no_nul (Path.mem_of_mem_parts (hsublist.subset hpart) hmem).1
  · have hmeasure := Path.measure_le_of_sublist hsublist
    rw [Path.measure_parts, Path.measure_parts] at hmeasure
    have hshort := h.short
    omega

/-- **The directories above a plain path can be made** if no file is in the way. The path is
then one that leads somewhere. -/
theorem makeParents_of_notBarred {tree : FileTree} {path : String} (hplain : Path.IsPlain path)
    (haddress : Addressable path)
    (hfree : NotBarred tree (start path) (Path.components path)) :
    (tree.makeParents path).2 = none ∧
      (tree.makeParents path).1.locate path = .ok (placeOf path) := by
  cases hcomponents : (Path.components path).getLast? with
  | none =>
    rw [List.getLast?_eq_none_iff] at hcomponents
    refine ⟨by rw [makeParents, hcomponents]; rfl, ?_⟩
    rw [locate_plain_eq_ok_iff hplain, hcomponents]
    exact ⟨rfl, haddress, onWay_nil _ _ _⟩
  | some last =>
    obtain ⟨above, habove⟩ := List.getLast?_eq_some_iff.mp hcomponents
    have hmem : ∀ name ∈ above.reverse, name ∈ Path.components path := by
      intro name hname
      rw [habove]
      exact List.mem_append_left _ (List.mem_reverse.mp hname)
    have hfits : ∀ down, down ≠ [] → down <:+ above.reverse →
        Fits (ofNames (Path.isAbsolute path) down.reverse) := by
      intro down hdown hsuffix
      refine fits_ofNames haddress.fits hplain (by simpa using hdown) ?_
      have hinitial := List.reverse_prefix.mpr hsuffix
      rw [List.reverse_reverse] at hinitial
      rw [habove]
      exact hinitial.trans (List.prefix_append above [last])
    obtain ⟨hnone, hopen⟩ := makeDirectories_of_notBarred
      (fun name hname => hplain.isName (hmem name hname))
      (fun name hname => haddress.short name (hmem name hname)) hfits last
      (by rwa [List.reverse_reverse, ← habove])
    rw [List.reverse_reverse, ← habove] at hopen
    have hparents : tree.makeParents path =
        tree.makeDirectories (Path.isAbsolute path) above.reverse := by
      rw [makeParents, habove, List.dropLast_concat]
    rw [hparents]
    exact ⟨hnone, (locate_plain_eq_ok_iff hplain).mpr ⟨rfl, haddress, hopen⟩⟩

/-- What is made for a plain path is above it, so nothing is made where it leads. -/
theorem node?_makeParents_eq_none {tree : FileTree} {path : String} (hplain : Path.IsPlain path)
    (hnone : tree.node? (placeOf path) = none) :
    (tree.makeParents path).1.node? (placeOf path) = none := by
  cases hmade : (tree.makeParents path).1.node? (placeOf path) with
  | none => rfl
  | some node =>
    obtain ⟨-, other, ⟨names, hne, hinitial, rfl⟩, hlocate⟩ :=
      (makeParents_adds tree path).added _ node hnone hmade
    have hnames : ∀ name ∈ names, IsName name := fun name hname =>
      hplain.isName (List.dropLast_subset _ (hinitial.subset hname))
    obtain ⟨hplace, -⟩ := (locate_plain_eq_ok_iff (Path.isPlain_ofNames _ hne hnames)).mp hlocate
    rw [placeOf, placeOf, start, start, Path.isAbsolute_ofNames _ hne hnames,
      Path.components_ofNames _ hne hnames] at hplace
    -- the names are fewer than the components
    have hlength := hinitial.length_le
    rw [← List.append_cancel_left hplace, List.length_dropLast] at hlength
    have hpos := List.length_pos_iff.mpr hne
    rw [← List.append_cancel_left hplace] at hpos
    omega

end Waymark.FileTree
