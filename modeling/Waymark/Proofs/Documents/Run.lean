import Waymark.Proofs.Documents.Step

/-!
# Waymark.Proofs.Documents.Run

A document store over whole runs.

The files by place are an abstract map, and `record` says what an answer means for it. For a
store whose directory is a plain path, in a well-formed tree in which no write breaks off:

* `IsFaithful`: the answer to a request is the one that what stands where its path leads
  calls for (`isFaithful_handler`);
* the tree left is such a tree again, and its files are the recorded ones (`wellFormed_of_step`,
  `room_of_step`, `files_of_step`).

By induction both hold of a run of any length (`run_faithful`).
-/

namespace Waymark

open Http FileTree

/-- A request that has been answered, with the tree it was put to. -/
structure Exchange where
  /-- The tree before. -/
  before : FileTree
  /-- The request. -/
  request : Request
  /-- The answer. -/
  response : Response

/-- Put requests to a handler one after the other: the exchanges, and the tree that is
left. -/
def Handler.run (handler : Handler) : List Request → FileTree → List Exchange × FileTree
  | [], tree => ([], tree)
  | request :: later, tree =>
    let answer := handler request tree
    let rest := Handler.run handler later answer.2
    (⟨tree, request, answer.1⟩ :: rest.1, rest.2)

/-- What holds of the answer to every request holds of every exchange of a run. -/
theorem Handler.forall_mem_run {handler : Handler} {holds : Exchange → Prop}
    (h : ∀ request tree, holds ⟨tree, request, (handler request tree).1⟩)
    (requests : List Request) (tree : FileTree) :
    ∀ exchange ∈ (handler.run requests tree).1, holds exchange := by
  induction requests generalizing tree with
  | nil => exact fun exchange hmem => (by cases hmem)
  | cons request later ih =>
    intro exchange hmem
    rcases List.mem_cons.mp hmem with rfl | hmem
    · exact h request tree
    · exact ih _ exchange hmem

namespace DocumentStore

variable {store : DocumentStore}

/-! ### What answers mean -/

/-- What an exchange means for the files: with the code 204, `POST` and `PUT` have left the
body where the path leads, and `DELETE` has left nothing there. Otherwise all is as it
was. -/
def record (store : DocumentStore) (files : Place → Option Bytes) (exchange : Exchange) :
    Place → Option Bytes :=
  match store.resolve exchange.request.uri.path with
  | none => files
  | some path =>
    if exchange.response.status ≠ 204 then files
    else if exchange.request.method = "DELETE" then Function.update files (placeOf path) none
    else if exchange.request.method = "POST" ∨ exchange.request.method = "PUT" then
      Function.update files (placeOf path) (some exchange.request.body)
    else files

/-- An answer is the one that the tree calls for. -/
structure IsFaithful (store : DocumentStore) (exchange : Exchange) : Prop where
  /-- A path that would climb out of the directory is answered as missing. -/
  unresolved : store.resolve exchange.request.uri.path = none → exchange.response = .notFound
  /-- A document is created if nothing is there and no file is in the way. -/
  create : ∀ path, store.resolve exchange.request.uri.path = some path →
    exchange.request.method = "POST" → (exchange.response.status = 204 ↔
      hasDocumentBody exchange.request = true ∧ isDocumentPath path = true ∧
        Addressable path ∧ exchange.before.node? (placeOf path) = none ∧
        NotBarred exchange.before (start path) (Path.components path))
  /-- A document is replaced if it is a file. -/
  replace : ∀ path, store.resolve exchange.request.uri.path = some path →
    exchange.request.method = "PUT" → (exchange.response.status = 204 ↔
      hasDocumentBody exchange.request = true ∧ isDocumentPath path = true ∧
        Addressable path ∧ exchange.before.files (placeOf path) ≠ none)
  /-- Whatever is a file is removed. -/
  remove : ∀ path, store.resolve exchange.request.uri.path = some path →
    exchange.request.method = "DELETE" → (exchange.response.status = 204 ↔
      Addressable path ∧ exchange.before.files (placeOf path) ≠ none)
  /-- A document is shown if it is a file with text. -/
  retrieve : ∀ path, store.resolve exchange.request.uri.path = some path →
    exchange.request.method = "GET" → (exchange.response.status = 200 ↔
      isDocumentPath path = true ∧ Addressable path ∧
        ∃ text, (exchange.before.files (placeOf path)).bind Text.decode? = some text)
  /-- What is shown is the page of that text. -/
  page : ∀ path, store.resolve exchange.request.uri.path = some path →
    exchange.request.method = "GET" → exchange.response.status = 200 →
    ∀ text, (exchange.before.files (placeOf path)).bind Text.decode? = some text →
      exchange.response.body = some (Text.encode (store.page text))

/-! ### One request -/

section OneRequest

variable {request : Request} {tree : FileTree} {path : String}

theorem isPlain_of_resolve (hplain : Path.IsPlain store.dataPath)
    (hresolve : store.resolve request.uri.path = some path) : Path.IsPlain path := by
  obtain ⟨names, hnames, rfl⟩ := Path.exists_names_of_below hresolve
  exact hplain.foldl_push hnames

/-- A plain path leads to a file if there is one at its place. -/
theorem exists_locate_file_iff (hwf : WellFormed tree) (hplain : Path.IsPlain path) :
    (∃ place old, tree.locate path = .ok place ∧ tree.node? place = some (.file old)) ↔
      Addressable path ∧ tree.files (placeOf path) ≠ none := by
  rw [exists_comm]
  simp only [hwf.exists_locate_iff hplain, exists_and_left, Option.ne_none_iff_exists',
    files_eq_some_iff]

theorem exists_readText_iff (hwf : WellFormed tree) (hplain : Path.IsPlain path) {text : String} :
    tree.readText path = .ok text ↔
      Addressable path ∧ (tree.files (placeOf path)).bind Text.decode? = some text := by
  rw [readText_eq_ok_iff, Option.bind_eq_some_iff]
  constructor
  · rintro ⟨place, content, hlocate, hnode, htext⟩
    obtain ⟨haddress, hplace⟩ := (hwf.exists_locate_iff hplain).mp ⟨place, hlocate, hnode⟩
    exact ⟨haddress, content, files_eq_some_iff.mpr hplace, htext⟩
  · rintro ⟨haddress, content, hfile, htext⟩
    obtain ⟨place, hlocate, hnode⟩ :=
      (hwf.exists_locate_iff hplain).mpr ⟨haddress, files_eq_some_iff.mp hfile⟩
    exact ⟨place, content, hlocate, hnode, htext⟩

/-- What creating takes. -/
theorem exists_created_iff (hplain : Path.IsPlain path) :
    (∃ made place, tree.makeParents path = (made, none) ∧ made.locate path = .ok place ∧
        made.node? place = none) ↔
      Addressable path ∧ tree.node? (placeOf path) = none ∧
        NotBarred tree (start path) (Path.components path) := by
  constructor
  · rintro ⟨made, place, hmade, hlocate, hnone⟩
    have hadds := makeParents_adds tree path
    rw [hmade] at hadds
    obtain ⟨rfl, haddress, hopen⟩ := (locate_plain_eq_ok_iff hplain).mp hlocate
    -- whatever was there has been kept, so it cannot have been in the way
    refine ⟨haddress, ?_, fun before name rest hnames content hcontent => ?_⟩
    · cases hbefore : tree.node? (placeOf path) with
      | none => rfl
      | some node =>
        rw [hadds.keeps _ _ hbefore] at hnone
        cases hnone
    · have hkept := hadds.keeps _ _ hcontent
      rw [hopen before name rest hnames] at hkept
      cases hkept
  · rintro ⟨haddress, hnone, hfree⟩
    obtain ⟨hmade, hlocate⟩ := makeParents_of_notBarred hplain haddress hfree
    exact ⟨_, _, Prod.ext rfl hmade, hlocate, node?_makeParents_eq_none hplain hnone⟩

/-- **Every answer is the one that the tree calls for.** -/
theorem isFaithful_handler (hplain : Path.IsPlain store.dataPath) (hwf : WellFormed tree)
    (hroom : tree.room = []) (request : Request) :
    store.IsFaithful ⟨tree, request, (store.handler request tree).1⟩ where
  unresolved := by
    intro hresolve
    dsimp only at hresolve ⊢
    rw [handler_of_resolve_eq_none hresolve]
  create := by
    intro path hresolve hmethod
    dsimp only at hresolve hmethod ⊢
    have hpath := isPlain_of_resolve hplain hresolve
    rw [handler_of_resolve hresolve, hmethod, ← exists_created_iff hpath]
    cases hasDocumentBody request with
    | false => simp
    | true =>
      simpa [hpath.no_slash, hasRoomFor_of_room_eq_nil hroom] using
        @create_status_eq_iff tree path request.body
  replace := by
    intro path hresolve hmethod
    dsimp only at hresolve hmethod ⊢
    have hpath := isPlain_of_resolve hplain hresolve
    rw [handler_of_resolve hresolve, hmethod, ← exists_locate_file_iff hwf hpath]
    cases hasDocumentBody request with
    | false => simp
    | true =>
      simpa [hasRoomFor_of_room_eq_nil hroom] using @update_status_eq_iff tree path request.body
  remove := by
    intro path hresolve hmethod
    dsimp only at hresolve hmethod ⊢
    have hpath := isPlain_of_resolve hplain hresolve
    rw [handler_of_resolve hresolve, hmethod, ← exists_locate_file_iff hwf hpath]
    simpa using delete_status_eq_iff
  retrieve := by
    intro path hresolve hmethod
    dsimp only at hresolve hmethod ⊢
    have hpath := isPlain_of_resolve hplain hresolve
    rw [handler_of_resolve hresolve, if_pos hmethod, get_status_eq_iff]
    simp only [exists_readText_iff hwf hpath, exists_and_left]
  page := by
    intro path hresolve hmethod hstatus text htext
    dsimp only at hresolve hmethod hstatus htext ⊢
    have hpath := isPlain_of_resolve hplain hresolve
    rw [handler_of_resolve hresolve, if_pos hmethod] at hstatus ⊢
    obtain ⟨hdocument, other, hother⟩ := get_status_eq_iff.mp hstatus
    obtain ⟨haddress, -⟩ := (exists_readText_iff hwf hpath).mp hother
    exact (get_of_readText hdocument ((exists_readText_iff hwf hpath).mpr ⟨haddress, htext⟩)).2

/-- No step leaves anything in a file. -/
theorem wellFormed_of_step {response : Response} {after : FileTree} (hwf : WellFormed tree)
    (hstep : store.Step request tree response after) : WellFormed after := by
  cases hstep with
  | unchanged => exact hwf
  | @created path made _ place _ _ _ _ _ _ parents located free written =>
    have hmade := hwf.makeDirectories (Path.isAbsolute path) (Path.components path).dropLast.reverse
    rw [← makeParents, parents] at hmade
    exact hmade.puts_of_locate located free written.puts
  | prepared => exact hwf.makeDirectories _ _
  | replaced _ _ _ _ _ found written => exact hwf.puts_file found written.puts
  | removed _ _ _ found => exact hwf.erase_file found

/-- Where no write is limited, none is limited later. -/
theorem room_of_step {response : Response} {after : FileTree} (hroom : tree.room = [])
    (hstep : store.Step request tree response after) : after.room = [] := by
  cases hstep with
  | unchanged => exact hroom
  | @created path made _ _ _ _ _ _ _ _ parents _ _ written =>
    have hmade := room_makeParents tree path
    rw [parents, hroom] at hmade
    rw [written.room, hmade]
    rfl
  | @prepared path => rw [room_makeParents, hroom]
  | replaced _ _ _ _ _ _ written =>
    rw [written.room, hroom]
    rfl
  | removed => exact hroom

/-- **The files after a step are the recorded ones.** -/
theorem files_of_step (hplain : Path.IsPlain store.dataPath) (hroom : tree.room = [])
    {response : Response} {after : FileTree} (hstep : store.Step request tree response after) :
    after.files = store.record tree.files ⟨tree, request, response⟩ := by
  unfold record
  dsimp only
  cases hstep with
  | unchanged status =>
    split
    · rfl
    · rw [if_pos status]
  | @created path made _ place _ content resolved method _ _ parents located free written =>
    have hadds := makeParents_adds tree path
    have hmade := room_makeParents tree path
    rw [parents] at hadds hmade
    obtain ⟨rfl, -⟩ := (locate_plain_eq_ok_iff (isPlain_of_resolve hplain resolved)).mp located
    obtain ⟨hstatus, rfl⟩ := written.whole (hasRoomFor_of_room_eq_nil (hmade.trans hroom) _)
    rw [resolved, method, written.puts.files_eq, hadds.files_eq]
    dsimp only
    rw [if_neg (not_not.mpr hstatus)]
    rfl
  | @prepared path _ resolved _ _ _ status =>
    have hne : response.status ≠ 204 := by rcases status with h | h <;> simp [h]
    rw [resolved, (makeParents_adds tree path).files_eq]
    dsimp only
    rw [if_pos hne]
  | replaced resolved method _ _ located found written =>
    obtain ⟨rfl, -⟩ := (locate_plain_eq_ok_iff (isPlain_of_resolve hplain resolved)).mp located
    obtain ⟨hstatus, rfl⟩ := written.whole (hasRoomFor_of_room_eq_nil hroom _)
    rw [resolved, method, written.puts.files_eq]
    dsimp only
    rw [if_neg (not_not.mpr hstatus)]
    rfl
  | removed resolved method located found =>
    obtain ⟨rfl, -⟩ := (locate_plain_eq_ok_iff (isPlain_of_resolve hplain resolved)).mp located
    rw [resolved, method, files_erase (isBase_eq_false_of_file found)]
    rfl

end OneRequest

/-! ### Whole runs -/

/-- **A document store is faithful over whole runs**, in a tree in which no write breaks off.
Every request is answered as the tree it is put to calls for, and the files that are left are
those of the beginning with all answers recorded in turn. -/
theorem run_faithful (hplain : Path.IsPlain store.dataPath) {tree : FileTree}
    (hwf : WellFormed tree) (hroom : tree.room = []) (requests : List Request) :
    (∀ exchange ∈ (store.handler.run requests tree).1, store.IsFaithful exchange) ∧
      (store.handler.run requests tree).2.files =
        (store.handler.run requests tree).1.foldl store.record tree.files := by
  -- that the tree is such a tree is what one request hands on to the next
  induction requests generalizing tree with
  | nil => exact ⟨fun exchange hmem => (by cases hmem), rfl⟩
  | cons request later ih =>
    have hstep := store.step_handler request tree
    obtain ⟨hfaithful, hfiles⟩ := ih (wellFormed_of_step hwf hstep) (room_of_step hroom hstep)
    constructor
    · intro exchange hmem
      rcases List.mem_cons.mp hmem with rfl | hmem
      · exact isFaithful_handler hplain hwf hroom request
      · exact hfaithful exchange hmem
    · rw [files_of_step hplain hroom hstep] at hfiles
      exact hfiles

/-- A document is created, though not twice, replaced, shown and removed. -/
theorem run_faithful_of_one_document :
    let store : DocumentStore := ⟨"/d", "s", "/m"⟩
    let ask (method body : String) : Request :=
      ⟨method, ⟨none, none, "/d/a.md", none⟩, .http11,
        [("content-type", [Text.encode "text/markdown"])], Text.encode body⟩
    let requests := [ask "POST" "x", ask "POST" "y", ask "PUT" "z", ask "GET" "", ask "DELETE" ""]
    let answered := store.handler.run requests {}
    Path.IsPlain store.dataPath ∧ WellFormed {} ∧ ({} : FileTree).room = [] ∧
      answered.1.map (·.response.status) = [204, 400, 204, 200, 204] ∧
      (∀ exchange ∈ answered.1, store.IsFaithful exchange) ∧
      answered.2.files = answered.1.foldl store.record (FileTree.files {}) := by
  intro store ask requests answered
  have hplain : Path.IsPlain store.dataPath := Path.isPlain_iff.mpr (by decide)
  obtain ⟨hfaithful, hfiles⟩ := run_faithful hplain WellFormed.empty rfl requests
  exact ⟨hplain, .empty, rfl, by decide, hfaithful, hfiles⟩

/-- What the system does not take is not created. -/
theorem status_ne_of_not_addressable (hplain : Path.IsPlain store.dataPath) {tree : FileTree}
    (hwf : WellFormed tree) (hroom : tree.room = []) {request : Request} {path : String}
    (hresolve : store.resolve request.uri.path = some path) (hmethod : request.method = "POST")
    (haddress : ¬ Addressable path) : (store.handler request tree).1.status ≠ 204 := by
  intro hstatus
  have hcreate := (isFaithful_handler hplain hwf hroom request).create path hresolve hmethod
  dsimp only at hcreate
  exact haddress (hcreate.mp hstatus).2.2.1

/-- A name of 256 bytes is too long to be created, though its type is right, nothing is there
and no file is in the way. -/
theorem status_ne_of_long_name :
    let name := String.ofList (List.replicate 253 'a' ++ '.' :: ['m', 'd'])
    let store : DocumentStore := ⟨"/d", "s", "/m"⟩
    let request : Request := ⟨"POST", ⟨none, none, "/d" ++ "/" ++ name, none⟩, .http11,
      [("content-type", [Text.encode "text/markdown"])], Text.encode "x"⟩
    let path := Path.push "s" name
    Path.IsPlain store.dataPath ∧ WellFormed {} ∧
      store.resolve request.uri.path = some path ∧
      hasDocumentBody request = true ∧ isDocumentPath path = true ∧
      ({} : FileTree).node? (placeOf path) = none ∧
      NotBarred {} (start path) (Path.components path) ∧
      (store.handler request {}).1.status ≠ 204 := by
  intro name store request path
  have hlist : name.toList = List.replicate 253 'a' ++ '.' :: ['m', 'd'] := String.toList_ofList
  have hstem : List.replicate 253 'a' ≠ [] := List.cons_ne_nil 'a' (List.replicate 252 'a')
  have hdocument : Path.IsName name → isDocumentPath path = true := fun h =>
    decide_eq_true (Path.extension?_push hstem (by decide) h "s")
  -- from here on the name is known by its characters only, so that nothing evaluates it
  clear_value name
  have hlength : name.toList.length = 256 := by
    rw [hlist, List.length_append, List.length_replicate]
    rfl
  have hname : Path.IsName name := by
    refine ⟨?_, ?_, ?_, by rw [hlist, List.mem_append, List.mem_replicate]; decide⟩ <;>
      · rintro rfl
        exact absurd hlength (by decide)
  have hplain : Path.IsPlain store.dataPath := Path.isPlain_iff.mpr (by decide)
  have hresolve : store.resolve request.uri.path = some path := Path.below_name hname "/d" "s"
  have hcomponents : Path.components path = ["s", name] := Path.components_push hname "s"
  have hnone : ({} : FileTree).node? (placeOf path) = none := by
    rw [placeOf, start, hcomponents, Path.isAbsolute_push hname]
    simp [node?, isBase, beginning, Path.isAbsolute]
  have haddress : ¬ Addressable path := by
    intro h
    have hshort := h.short name (by simp [hcomponents])
    have hle := Path.length_le_utf8ByteSize name
    omega
  have hbody : hasDocumentBody request = true := by rfl
  have hwf : WellFormed {} := WellFormed.empty
  have hstatus := status_ne_of_not_addressable hplain hwf rfl hresolve rfl haddress
  exact ⟨hplain, hwf, hresolve, hbody, hdocument hname, hnone, notBarred_empty _ _, hstatus⟩

end DocumentStore

end Waymark
