import Waymark.Proofs.Documents.Run
import Waymark.Proofs.Files.Resolution

/-!
# Waymark.Proofs.Documents.Names

Which files a document store touches, by their names.

A path to a document leads to a place whose name is one of a document, whatever the tree and
however the path is written (`isDocumentPlace_of_locate`). So a request that creates or
replaces a file concerns a document (`isDocumentPlace_or_removes`). Removing does not ask for
the name (`files_after_of_removes`), and this decides what a run leaves of all other files
(`files_run_cases`).
-/

namespace Waymark

open Http FileTree

/-- Whether the name of a place is one of a document. -/
def isDocumentPlace (place : Place) : Bool := place.getLast?.any isDocumentPath

/-- **A path to a document leads to a place of a document.** -/
theorem isDocumentPlace_of_locate {tree : FileTree} {path : String} {place : Place}
    (hdocument : isDocumentPath path = true) (hlocate : tree.locate path = .ok place) :
    isDocumentPlace place = true := by
  have hextension : Path.extension? path = some "md" := of_decide_eq_true hdocument
  cases hname : Path.fileName? path with
  | none =>
    rw [Path.extension?, hname] at hextension
    cases hextension
  | some name =>
    -- the name by itself is a path with the same file name
    obtain ⟨hisName, -⟩ := Path.exists_parts_of_fileName? hname
    have hsame := Path.fileName?_push hisName ""
    rw [Path.push_empty hisName, ← hname] at hsame
    have hmd : isDocumentPath name = true := by
      rw [← hdocument, isDocumentPath, isDocumentPath, Path.extension?, Path.extension?, hsame]
    rw [isDocumentPlace, getLast?_of_locate hname hlocate, Option.any_some, hmd]

namespace DocumentStore

variable {store : DocumentStore}

/-- The tree that a store leaves of the one before an exchange. -/
def after (store : DocumentStore) (exchange : Exchange) : FileTree :=
  (store.handler exchange.request exchange.before).2

/-- The request of an exchange is `DELETE` and its path leads to a file, at a given place. -/
def Removes (store : DocumentStore) (exchange : Exchange) (place : Place) : Prop :=
  exchange.request.method = "DELETE" ∧
    ∃ path, store.resolve exchange.request.uri.path = some path ∧
      exchange.before.locate path = .ok place ∧ exchange.before.files place ≠ none

/-! ### One request -/

/-- Only where a map is updated it can differ. -/
theorem eq_of_update_ne {files : Place → Option Bytes} {place changed : Place}
    {content? : Option Bytes}
    (h : Function.update files changed content? place ≠ files place) : place = changed :=
  not_imp_comm.mp (Function.update_of_ne · _ _) h

/-- **Only documents are created or replaced.** -/
theorem isDocumentPlace_or_removes {request : Request} {tree after : FileTree}
    {response : Response} (hstep : store.Step request tree response after) {place : Place}
    (hchanged : after.files place ≠ tree.files place) :
    isDocumentPlace place = true ∨ store.Removes ⟨tree, request, response⟩ place := by
  cases hstep with
  | unchanged => exact absurd rfl hchanged
  | @created path made _ _ _ _ _ _ _ document parents located free written =>
    have hadds := makeParents_adds tree path
    rw [parents] at hadds
    rw [written.puts.files_eq, hadds.files_eq] at hchanged
    obtain rfl := eq_of_update_ne hchanged
    exact Or.inl (isDocumentPlace_of_locate document located)
  | prepared =>
    rw [(makeParents_adds tree _).files_eq] at hchanged
    exact absurd rfl hchanged
  | replaced _ _ _ document located found written =>
    rw [written.puts.files_eq] at hchanged
    obtain rfl := eq_of_update_ne hchanged
    exact Or.inl (isDocumentPlace_of_locate document located)
  | @removed path erased old resolved method located found =>
    rw [files_erase (isBase_eq_false_of_file found)] at hchanged
    obtain rfl := eq_of_update_ne hchanged
    have hfile : tree.files place ≠ none := by
      rw [files_eq_some_iff.mpr found]
      exact Option.some_ne_none old
    exact Or.inr ⟨method, path, resolved, located, hfile⟩

/-- **Any file is removed**, whatever its name. -/
theorem files_after_of_removes {exchange : Exchange} {place : Place}
    (h : store.Removes exchange place) :
    (store.handler exchange.request exchange.before).1.status = 204 ∧
      (store.after exchange).files = Function.update exchange.before.files place none := by
  obtain ⟨hmethod, path, hresolve, hlocate, hfile⟩ := h
  obtain ⟨content, hcontent⟩ := Option.ne_none_iff_exists'.mp hfile
  have hnode := files_eq_some_iff.mp hcontent
  have hanswer : store.handler exchange.request exchange.before = _ := handler_of_resolve hresolve
  rw [hmethod, if_neg (by decide), if_pos rfl, delete_of_locate hlocate hnode] at hanswer
  rw [after, hanswer]
  exact ⟨rfl, files_erase (isBase_eq_false_of_file hnode) _⟩

/-- What a request leaves of a file that is no document: nothing if it removes the file, and
otherwise all of it. -/
theorem files_cases {place : Place} (hplace : isDocumentPlace place = false) (request : Request)
    (tree : FileTree) :
    store.Removes ⟨tree, request, (store.handler request tree).1⟩ place ∧
        (store.handler request tree).2.files place = none ∨
      ¬ store.Removes ⟨tree, request, (store.handler request tree).1⟩ place ∧
        (store.handler request tree).2.files place = tree.files place := by
  by_cases hremoves : store.Removes ⟨tree, request, (store.handler request tree).1⟩ place
  · have hafter := (files_after_of_removes hremoves).2
    rw [after] at hafter
    rw [hafter, Function.update_self]
    exact Or.inl ⟨hremoves, rfl⟩
  · refine Or.inr ⟨hremoves, ?_⟩
    by_contra hchanged
    rcases isDocumentPlace_or_removes (store.step_handler request tree) hchanged with
      hdocument | hother
    · rw [hplace] at hdocument
      cases hdocument
    · exact hremoves hother

/-! ### Whole runs -/

/-- What a run leaves of a file that is no document, by induction over the requests: nothing if
one of them has removed it, since no later one brings it back, and otherwise all of it. -/
theorem files_run_cases {place : Place} (hplace : isDocumentPlace place = false)
    (requests : List Request) (tree : FileTree) :
    (∃ exchange ∈ (store.handler.run requests tree).1, store.Removes exchange place) ∧
        (store.handler.run requests tree).2.files place = none ∨
      (∀ exchange ∈ (store.handler.run requests tree).1, ¬ store.Removes exchange place) ∧
        (store.handler.run requests tree).2.files place = tree.files place := by
  induction requests generalizing tree with
  | nil => exact Or.inr ⟨fun exchange hmem => (by cases hmem), rfl⟩
  | cons request later ih =>
    rcases ih (store.handler request tree).2 with
      ⟨⟨exchange, hmem, hexchange⟩, hleft⟩ | ⟨hnot, hleft⟩
    · exact Or.inl ⟨⟨exchange, List.mem_cons_of_mem _ hmem, hexchange⟩, hleft⟩
    · rcases files_cases hplace request tree with ⟨hremoves, hnone⟩ | ⟨hkeeps, hsame⟩
      · exact Or.inl ⟨⟨_, List.mem_cons_self, hremoves⟩, hleft.trans hnone⟩
      · refine Or.inr ⟨fun exchange hmem => ?_, hleft.trans hsame⟩
        rcases List.mem_cons.mp hmem with rfl | hmem
        · exact hkeeps
        · exact hnot exchange hmem

/-- **A document store writes documents and removes whatever it is asked to.** In any tree and
for any requests, a file that an exchange of the run creates, changes or removes has the name
of a document, or is removed by `DELETE`; and `DELETE` removes the file that its path leads
to, whatever that is called. So of all the other files that share the directory, just those
are left that no `DELETE` of the run has led to, and they are unchanged. -/
theorem run_writes_documents (store : DocumentStore) (requests : List Request)
    (tree : FileTree) :
    let answered := store.handler.run requests tree
    (∀ exchange ∈ answered.1, ∀ place,
      ((store.after exchange).files place ≠ exchange.before.files place →
        isDocumentPlace place = true ∨ store.Removes exchange place) ∧
      (store.Removes exchange place →
        exchange.response.status = 204 ∧ (store.after exchange).files place = none)) ∧
    ∀ place, isDocumentPlace place = false →
      ((∃ exchange ∈ answered.1, store.Removes exchange place) →
        answered.2.files place = none) ∧
      ((∀ exchange ∈ answered.1, ¬ store.Removes exchange place) →
        answered.2.files place = tree.files place) := by
  intro answered
  constructor
  · refine Handler.forall_mem_run (fun request tree place => ⟨?_, fun hremoves => ?_⟩) _ _
    · exact isDocumentPlace_or_removes (store.step_handler request tree)
    · obtain ⟨hstatus, hfiles⟩ := files_after_of_removes hremoves
      have hnone := congrFun hfiles place
      rw [Function.update_self] at hnone
      dsimp only at hstatus ⊢
      exact ⟨hstatus, hnone⟩
  · intro place hplace
    rcases files_run_cases hplace requests tree with ⟨hremoves, hnone⟩ | ⟨hnot, hsame⟩
    · obtain ⟨exchange, hmem, hexchange⟩ := hremoves
      exact ⟨fun _ => hnone, fun hnot => absurd hexchange (hnot exchange hmem)⟩
    · exact ⟨fun ⟨exchange, hmem, hexchange⟩ => absurd hexchange (hnot exchange hmem),
        fun _ => hsame⟩

/-- One note is removed and another one stays, next to a document that is created. -/
theorem run_writes_documents_beside_notes :
    let store : DocumentStore := ⟨"/d", "s", "/m"⟩
    let note : Node := .file (Text.encode "plain")
    let tree : FileTree :=
      { nodes := [(["s"], .directory), (["s", "notes.txt"], note), (["s", "kept.txt"], note)] }
    let delete : Request := ⟨"DELETE", ⟨none, none, "/d/notes.txt", none⟩, .http11, [], []⟩
    let post : Request := ⟨"POST", ⟨none, none, "/d/a.md", none⟩, .http11,
      [("content-type", [Text.encode "text/markdown"])], Text.encode "x"⟩
    let answered := store.handler.run [delete, post] tree
    answered.1.map (·.response.status) = [204, 204] ∧
      isDocumentPlace ["s", "notes.txt"] = false ∧ answered.2.files ["s", "notes.txt"] = none ∧
      isDocumentPlace ["s", "kept.txt"] = false ∧
      answered.2.files ["s", "kept.txt"] = tree.files ["s", "kept.txt"] ∧
      isDocumentPlace ["s", "a.md"] = true := by
  intro store note tree delete post answered
  let removing : Exchange := ⟨tree, delete, (store.handler delete tree).1⟩
  let left := store.after removing
  let creating : Exchange := ⟨left, post, (store.handler post left).1⟩
  have hopen : OpenTo tree [] ["s", "notes.txt"] :=
    onWay_cons_iff.mpr ⟨by decide, onWay_cons_iff.mpr ⟨by decide, onWay_nil _ _ _⟩⟩
  have hlocate : tree.locate "s/notes.txt" = .ok ["s", "notes.txt"] :=
    (locate_plain_eq_ok_iff (Path.isPlain_iff.mpr (by decide))).mpr
      ⟨by decide, ⟨⟨by decide, by decide⟩, by decide⟩, hopen⟩
  have hresolve : store.resolve delete.uri.path = some "s/notes.txt" := by decide
  have hremoving : store.Removes removing ["s", "notes.txt"] :=
    ⟨rfl, "s/notes.txt", hresolve, hlocate, by decide⟩
  have hcreating : ∀ place, ¬ store.Removes creating place :=
    fun _ hremoves => absurd hremoves.1 (by decide)
  have hkept : ∀ exchange ∈ answered.1, ¬ store.Removes exchange ["s", "kept.txt"] := by
    intro exchange hmem hremoves
    rcases List.mem_cons.mp hmem with rfl | hmem
    · obtain ⟨-, path, hpath, hplace, -⟩ := hremoves
      obtain rfl := Option.some.inj (hresolve.symm.trans hpath)
      exact absurd (Except.ok.inj (hlocate.symm.trans hplace)) (by decide)
    · obtain rfl := List.mem_singleton.mp hmem
      exact hcreating _ hremoves
  obtain ⟨hexchanges, hothers⟩ := run_writes_documents store [delete, post] tree
  have hmem : removing ∈ answered.1 := List.mem_cons_self
  have hnone := (hothers ["s", "notes.txt"] (by decide)).1 ⟨removing, hmem, hremoving⟩
  have hsame := (hothers ["s", "kept.txt"] (by decide)).2 hkept
  have hmem : creating ∈ answered.1 := List.mem_cons_of_mem _ List.mem_cons_self
  have hchanged : (store.after creating).files ["s", "a.md"] ≠
      creating.before.files ["s", "a.md"] := by decide
  have hdocument := ((hexchanges creating hmem _).1 hchanged).resolve_right (hcreating _)
  exact ⟨by decide, by decide, hnone, by decide, hsame, hdocument⟩

/-- A note is gone, though its name is not one of a document. -/
theorem removes_other_file :
    let store : DocumentStore := ⟨"/d", "s", "/m"⟩
    let tree : FileTree :=
      { nodes := [(["s"], .directory), (["s", "notes.txt"], .file (Text.encode "plain"))] }
    let delete : Request := ⟨"DELETE", ⟨none, none, "/d/notes.txt", none⟩, .http11, [], []⟩
    let answered := store.handler.run [delete] tree
    answered.1.map (·.response.status) = [204] ∧
      tree.files ["s", "notes.txt"] = some (Text.encode "plain") ∧
      answered.2.files ["s", "notes.txt"] = none ∧
      ¬ ∀ place, answered.2.files place ≠ tree.files place → isDocumentPlace place = true := by
  intro store tree delete answered
  refine ⟨by decide, by decide, by decide, fun hclaim => ?_⟩
  exact absurd (hclaim ["s", "notes.txt"] (by decide)) (by decide)

end DocumentStore

end Waymark
