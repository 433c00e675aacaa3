import Waymark.Proofs.Documents.Step

/-!
# Waymark.Proofs.Documents.Missing

What a document store says of documents that do not exist.

Replacing and removing ask what is where the path leads, and take every error for absence.
Showing reads the file, and takes one error for absence only, so it matters where the way to the
file ends and why (`walk_eq_error_iff`). A way that is barred (`IsBarred`) does not end for want of
a name: then a missing document is shown as a failure of the server (`answers_of_missing`).
-/

namespace Waymark

open Http

/-! ### Where paths end -/

namespace FileTree

variable {tree : FileTree} {place reached : Place} {path part : String}
  {parts before after : List String} {error : FileError}

/-- Why a step from a place fails. -/
inductive StepFails (tree : FileTree) (place : Place) (part : String) : FileError → Prop
  /-- There is nothing to step from. -/
  | missing (gone : tree.node? place = none) : StepFails tree place part .notFound
  /-- It is a file. -/
  | file {content : Bytes} (found : tree.node? place = some (.file content)) :
      StepFails tree place part .notADirectory
  /-- The name is too long. -/
  | long (found : tree.node? place = some .directory) (size : 255 < part.utf8ByteSize) :
      StepFails tree place part .nameTooLong

theorem StepFails.walk_eq (h : StepFails tree place part error) (rest : List String) :
    tree.walk place (part :: rest) = .error error := by
  rw [walk_cons]
  cases h with
  | missing gone => rw [gone]
  | file found => rw [found]
  | long found size =>
    have hskip : ¬ (part = "" ∨ part = ".") := by
      rintro (rfl | rfl) <;> exact absurd size (by decide)
    have hup : part ≠ ".." := by
      rintro rfl
      exact absurd size (by decide)
    rw [found]
    dsimp only
    rw [if_neg hskip, if_neg hup, if_pos size]

/-- Parts lead to a step that fails. -/
def Stops (tree : FileTree) (place : Place) (parts : List String) (error : FileError) : Prop :=
  ∃ before part after reached, parts = before ++ part :: after ∧
    tree.walk place before = .ok reached ∧ StepFails tree reached part error

theorem Stops.first (h : StepFails tree place part error) (rest : List String) :
    Stops tree place (part :: rest) error :=
  ⟨[], part, rest, place, rfl, rfl, h⟩

/-- A step that succeeds is put before the others. -/
theorem Stops.later {rest : List String} (hstep : tree.walk place [part] = .ok reached)
    (h : Stops tree reached rest error) : Stops tree place (part :: rest) error := by
  obtain ⟨before, other, after, last, rfl, hbefore, hfails⟩ := h
  refine ⟨part :: before, other, after, last, rfl, ?_, hfails⟩
  rw [← List.singleton_append, walk_append, hstep]
  exact hbefore

/-- **A walk fails at one of its steps**, once those before it have led somewhere. -/
theorem walk_eq_error_iff :
    tree.walk place parts = .error error ↔ Stops tree place parts error := by
  constructor
  · intro h
    induction parts generalizing place with
    | nil => cases h
    | cons part rest ih =>
      have hstep := walk_cons tree place part []
      rw [walk_cons] at h
      cases hnode : tree.node? place with
      | none =>
        rw [hnode] at h
        obtain rfl := Except.error.inj h
        exact .first (.missing hnode) rest
      | some node =>
        rw [hnode] at h hstep
        cases node with
        | file content =>
          obtain rfl := Except.error.inj h
          exact .first (.file hnode) rest
        | directory =>
          dsimp only at h hstep
          split at h
          · next hskip =>
            rw [if_pos hskip] at hstep
            exact .later hstep (ih h)
          · next hskip =>
            rw [if_neg hskip] at hstep
            split at h
            · next hup =>
              rw [if_pos hup] at hstep
              exact .later hstep (ih h)
            · next hup =>
              rw [if_neg hup] at hstep
              split at h
              · next hlong =>
                obtain rfl := Except.error.inj h
                exact .first (.long hnode hlong) rest
              · next hshort =>
                rw [if_neg hshort] at hstep
                exact .later hstep (ih h)
  · rintro ⟨before, part, after, reached, rfl, hbefore, hfails⟩
    rw [walk_append, hbefore]
    exact hfails.walk_eq after

/-- The system cannot look for what a path leads to: it does not take the path, or on the way
stands a file or a name that is too long. -/
inductive IsBarred (tree : FileTree) (path : String) : Prop
  /-- The path is too long or has a NUL. -/
  | unfit (unfit : ¬ Fits path)
  /-- The path goes on after a file. -/
  | file {before after : List String} {part : String} {place : Place} {content : Bytes}
      (parts : Path.parts path = before ++ part :: after)
      (reached : tree.walk (start path) before = .ok place)
      (found : tree.node? place = some (.file content))
  /-- A name of the path is too long for the directory that it is looked up in. -/
  | longName {before after : List String} {name : String} {place : Place}
      (parts : Path.parts path = before ++ name :: after)
      (reached : tree.walk (start path) before = .ok place)
      (found : tree.node? place = some .directory) (size : 255 < name.utf8ByteSize)

theorem ne_ok_of_stat_eq_error (h : tree.stat path = .error error) (node : Node) :
    tree.stat path ≠ .ok node := by
  intro hnode
  rw [h] at hnode
  cases hnode

theorem stat_of_locate_eq_error (h : tree.locate path = .error error) :
    tree.stat path = .error error := by
  rw [stat, h]
  rfl

/-- A path that is barred is not looked for, and this is not taken for absence. -/
theorem IsBarred.stat_eq_error (h : IsBarred tree path) (hne : path ≠ "") :
    ∃ error, tree.stat path = .error error ∧ error ≠ .notFound := by
  by_cases hfits : Fits path
  · have hlocate := locate_of_fits hfits hne tree
    cases h with
    | unfit hunfit => exact absurd hfits hunfit
    | @file before after part _ _ hparts hreached found =>
      have hwalk := walk_eq_error_iff.mpr ⟨before, part, after, _, hparts, hreached, .file found⟩
      rw [hwalk] at hlocate
      exact ⟨_, stat_of_locate_eq_error hlocate, by decide⟩
    | @longName before after name _ hparts hreached found size =>
      have hwalk :=
        walk_eq_error_iff.mpr ⟨before, name, after, _, hparts, hreached, .long found size⟩
      rw [hwalk] at hlocate
      exact ⟨_, stat_of_locate_eq_error hlocate, by decide⟩
  · by_cases hnul : path.toList.contains '\x00' = true
    · have hlocate : tree.locate path = .error .nulInPath := by rw [locate, if_pos hnul]
      exact ⟨_, stat_of_locate_eq_error hlocate, by decide⟩
    · have hlong : 4096 ≤ path.utf8ByteSize := by
        by_contra hshort
        exact hfits ⟨by simpa using hnul, by omega⟩
      have hlocate : tree.locate path = .error .nameTooLong := by
        rw [locate, if_neg hnul, if_neg hne, if_pos hlong]
      exact ⟨_, stat_of_locate_eq_error hlocate, by decide⟩

/-- Otherwise whatever is missing is said to be. -/
theorem stat_eq_notFound (hmissing : ∀ node, tree.stat path ≠ .ok node)
    (hfree : ¬ IsBarred tree path) : tree.stat path = .error .notFound := by
  have hfits : Fits path := by
    by_contra hunfit
    exact hfree (.unfit hunfit)
  by_cases hne : path = ""
  · subst hne
    rfl
  · have hlocate := locate_of_fits hfits hne tree
    cases hwalk : tree.walk (start path) (Path.parts path) with
    | error error =>
      obtain ⟨before, part, after, reached, hparts, hbefore, hfails⟩ := walk_eq_error_iff.mp hwalk
      rw [hwalk] at hlocate
      cases hfails with
      | missing => exact stat_of_locate_eq_error hlocate
      | file found => exact absurd (.file hparts hbefore found) hfree
      | long found size => exact absurd (.longName hparts hbefore found size) hfree
    | ok place =>
      rw [hwalk] at hlocate
      cases hnode : tree.node? place with
      | none =>
        simp [stat, hlocate, hnode]
      | some node => exact absurd (stat_eq_ok_iff.mpr ⟨place, hlocate, hnode⟩) (hmissing node)

/-- What cannot be looked for cannot be read. -/
theorem readText_of_stat_eq_error (h : tree.stat path = .error error) :
    tree.readText path = .error error := by
  rw [readText, read, h]
  rfl

end FileTree

namespace DocumentStore

open FileTree

variable {store : DocumentStore} {request : Request} {tree : FileTree} {path : String}
  {error : FileError}

/-! ### The operations -/

theorem ne_empty_of_isDocumentPath (h : isDocumentPath path = true) : path ≠ "" := by
  rintro rfl
  exact absurd h (by decide)

theorem get_of_stat_eq_notFound (hdocument : isDocumentPath path = true)
    (hstat : tree.stat path = .error .notFound) : store.get path tree = .notFound := by
  unfold get
  rw [hdocument, readText_of_stat_eq_error hstat]
  rfl

/-- Of the errors of looking, showing takes one for absence. -/
theorem get_of_stat_eq_error (hdocument : isDocumentPath path = true)
    (hstat : tree.stat path = .error error) (hne : error ≠ .notFound) :
    store.get path tree = .plain 500 s!"Failed to read file {path}" := by
  unfold get
  rw [hdocument, readText_of_stat_eq_error hstat]
  cases error with
  | notFound => exact absurd rfl hne
  | _ => rfl

/-- Replacing takes all of them for absence. -/
theorem update_of_missing (hdocument : isDocumentPath path = true)
    (hmissing : ∀ node, tree.stat path ≠ .ok node) (body : Bytes) :
    update path body tree = (.notFound, tree) := by
  have hfile : tree.isFile path = false := by
    rw [Bool.eq_false_iff]
    intro hfile
    obtain ⟨place, content, hlocate, hnode⟩ := isFile_iff.mp hfile
    exact hmissing _ (stat_eq_ok_iff.mpr ⟨place, hlocate, hnode⟩)
  unfold update
  rw [hdocument, hfile]
  rfl

/-- So does removing. -/
theorem delete_of_missing (hmissing : ∀ node, tree.stat path ≠ .ok node) :
    delete path tree = (.notFound, tree) := by
  unfold delete
  cases hstat : tree.stat path with
  | error error => rfl
  | ok node => exact absurd hstat (hmissing node)

/-! ### The answers -/

/-- **What is said of a document that does not exist.** In any tree, where the path of a
request leads to no document and to nothing else, `PUT` and `DELETE` are answered as missing,
whatever is on the way. So is `GET`, unless the way is barred; then it is answered as a failure
of the server. The tree stays as it is. -/
theorem answers_of_missing (hresolve : store.resolve request.uri.path = some path)
    (hdocument : isDocumentPath path = true) (hmissing : ∀ node, tree.stat path ≠ .ok node) :
    (request.method = "PUT" → hasDocumentBody request = true →
      store.handler request tree = (.notFound, tree)) ∧
    (request.method = "DELETE" → store.handler request tree = (.notFound, tree)) ∧
    (request.method = "GET" →
      (¬ IsBarred tree path → store.handler request tree = (.notFound, tree)) ∧
      (IsBarred tree path →
        store.handler request tree = (.plain 500 s!"Failed to read file {path}", tree))) := by
  have hanswer : store.handler request tree = _ := handler_of_resolve hresolve
  refine ⟨fun hmethod hbody => ?_, fun hmethod => ?_,
    fun hmethod => ⟨fun hfree => ?_, fun hbarred => ?_⟩⟩
  · rw [hanswer, hmethod, hbody, update_of_missing hdocument hmissing]
    rfl
  · rw [hanswer, hmethod, delete_of_missing hmissing]
    rfl
  · rw [hanswer, if_pos hmethod,
      get_of_stat_eq_notFound hdocument (stat_eq_notFound hmissing hfree)]
  · obtain ⟨error, hstat, hne⟩ := hbarred.stat_eq_error (ne_empty_of_isDocumentPath hdocument)
    rw [hanswer, if_pos hmethod, get_of_stat_eq_error hdocument hstat hne]

/-- In a directory that is missing as well, a document is missing for all three; below a document
it is so for two of them. -/
theorem answers_of_missing_below_document :
    let store : DocumentStore := ⟨"/d", "s", "/m"⟩
    let tree : FileTree :=
      { nodes := [(["s"], .directory), (["s", "a.md"], .file (Text.encode "x"))] }
    let ask (method path : String) : Request := ⟨method, ⟨none, none, path, none⟩, .http11,
      [("content-type", [Text.encode "text/markdown"])], Text.encode "y"⟩
    (∀ method ∈ ["GET", "PUT", "DELETE"],
      store.handler (ask method "/d/n/b.md") tree = (.notFound, tree)) ∧
    store.handler (ask "PUT" "/d/a.md/b.md") tree = (.notFound, tree) ∧
    store.handler (ask "DELETE" "/d/a.md/b.md") tree = (.notFound, tree) ∧
    store.handler (ask "GET" "/d/a.md/b.md") tree =
      (.plain 500 "Failed to read file s/a.md/b.md", tree) := by
  intro store tree ask
  have hbody : ∀ method path, hasDocumentBody (ask method path) = true := fun _ _ => by rfl
  -- nothing is in a directory that does not exist
  have hresolve : store.resolve "/d/n/b.md" = some "s/n/b.md" := by decide
  have hstat : tree.stat "s/n/b.md" = .error .notFound := by rfl
  have hfree : ¬ IsBarred tree "s/n/b.md" := by
    intro hbarred
    obtain ⟨error, herror, hne⟩ := hbarred.stat_eq_error (by decide)
    rw [hstat] at herror
    exact hne (Except.error.inj herror).symm
  have hdirectory := fun method => @answers_of_missing store (ask method "/d/n/b.md") tree
    "s/n/b.md" hresolve (by decide) (ne_ok_of_stat_eq_error hstat)
  -- nothing is below a file either
  have hresolve : store.resolve "/d/a.md/b.md" = some "s/a.md/b.md" := by decide
  have hstat : tree.stat "s/a.md/b.md" = .error .notADirectory := by rfl
  have hparts : Path.parts "s/a.md/b.md" = ["s", "a.md"] ++ "b.md" :: [] := by decide
  have hbarred : IsBarred tree "s/a.md/b.md" := .file hparts (by rfl) (by rfl)
  have hfile := fun method => @answers_of_missing store (ask method "/d/a.md/b.md") tree
    "s/a.md/b.md" hresolve (by decide) (ne_ok_of_stat_eq_error hstat)
  refine ⟨?_, (hfile "PUT").1 rfl (hbody _ _), (hfile "DELETE").2.1 rfl,
    ((hfile "GET").2.2 rfl).2 hbarred⟩
  intro method hmethod
  simp only [List.mem_cons, List.not_mem_nil, or_false] at hmethod
  rcases hmethod with rfl | rfl | rfl
  · exact ((hdirectory "GET").2.2 rfl).1 hfree
  · exact (hdirectory "PUT").1 rfl (hbody _ _)
  · exact (hdirectory "DELETE").2.1 rfl

/-- Below a document nothing exists, but it is not shown as missing. -/
theorem get_below_document_fails :
    let store : DocumentStore := ⟨"/d", "s", "/m"⟩
    let tree : FileTree :=
      { nodes := [(["s"], .directory), (["s", "a.md"], .file (Text.encode "x"))] }
    let request : Request := ⟨"GET", ⟨none, none, "/d/a.md/b.md", none⟩, .http11, [], []⟩
    store.resolve request.uri.path = some "s/a.md/b.md" ∧
      isDocumentPath "s/a.md/b.md" = true ∧ (∀ node, tree.stat "s/a.md/b.md" ≠ .ok node) ∧
      (store.handler request tree).1.status ≠ 404 := by
  intro store tree request
  have hstat : tree.stat "s/a.md/b.md" = .error .notADirectory := by rfl
  exact ⟨by decide, by decide, ne_ok_of_stat_eq_error hstat, by decide⟩

end DocumentStore

end Waymark
