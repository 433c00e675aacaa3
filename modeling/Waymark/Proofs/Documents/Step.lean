import Waymark.DocumentStore
import Waymark.Proofs.Files.Writing

/-!
# Waymark.Proofs.Documents.Step

What a document store does with one request.

`DocumentStore.Step` has a constructor for each thing that can happen, with all that is then
known; `step_handler` says that nothing else happens, so whatever holds of every answer is
proved by cases on it. A write that breaks off is no case by itself: `WriteEnds` says how it
differs from one that is done. Which requests succeed is said for each operation by itself, by
`create_status_eq_iff`, `update_status_eq_iff`, `delete_status_eq_iff` and
`get_status_eq_iff`.
-/

namespace Waymark

open Http

@[simp] theorem Http.Response.plain_status (code : Nat) (text : String) :
    (plain code text).status = if 100 ≤ code ∧ code ≤ 999 then code else 500 := rfl

@[simp] theorem Http.Response.badRequest_status : badRequest.status = 400 := rfl

@[simp] theorem Http.Response.notFound_status : notFound.status = 404 := rfl

@[simp] theorem Http.Response.internalError_status : internalError.status = 500 := rfl

namespace DocumentStore

open FileTree

variable {store : DocumentStore} {request : Request} {tree : FileTree} {path : String}
  {place : Place}

/-! ### The operations -/

/-- How writing a body is answered, and what of it is then in the file. -/
inductive WriteEnds (body : Bytes) : Response → (content : Bytes) → Prop
  /-- All of it has been written. -/
  | whole : WriteEnds body (.ofStatus 204) body
  /-- The write has broken off before the end. -/
  | part {count : Nat} (short : count < body.length) :
      WriteEnds body .internalError (body.take count)

/-- A body has been written to the file at a place, as far as there was room, and answered. -/
structure Written (before : FileTree) (place : Place) (body : Bytes) (response : Response)
    (content : Bytes) (after : FileTree) : Prop where
  /-- The answer says what has come of it. -/
  ends : WriteEnds body response content
  /-- The answer is a success just if there was room for all of it. -/
  status : response.status = 204 ↔ before.HasRoomFor body
  /-- Only that file is another one. -/
  puts : Puts before place (.file content) after
  /-- One write has been made. -/
  room : after.room = before.room.tail

/-- Where there is room, all is written. -/
theorem Written.whole {before after : FileTree} {body content : Bytes} {response : Response}
    (h : Written before place body response content after) (hfits : before.HasRoomFor body) :
    response.status = 204 ∧ content = body := by
  have hstatus := h.status.mpr hfits
  cases h.ends with
  | whole => exact ⟨hstatus, rfl⟩
  | part _ => cases hstatus

/-- A file that is filled is written, whether it is new or not. -/
theorem exists_written_of_fills {before : FileTree} {body : Bytes}
    {result : Except FailedChange FileTree} (h : Fills before place body result) :
    ∃ response content after, Written before place body response content after ∧
      (result = .ok after ∧ response = .ofStatus 204 ∨
        result = .error ⟨.noSpace, after⟩ ∧ response = .internalError) := by
  cases h with
  | whole fits puts room =>
    exact ⟨_, _, _, ⟨.whole, iff_of_true rfl fits, puts, room⟩, Or.inl ⟨rfl, rfl⟩⟩
  | part full short puts room =>
    exact ⟨_, _, _, ⟨.part short, iff_of_false (by simp) full, puts, room⟩, Or.inr ⟨rfl, rfl⟩⟩

/-- A file is written where the path leads to nothing once the directories above are there. -/
theorem create_of_locate {made : FileTree} (hdocument : isDocumentPath path = true)
    (hmade : tree.makeParents path = (made, none)) (hslash : path.toList.getLast? ≠ some '/')
    (hlocate : made.locate path = .ok place) (hnode : made.node? place = none) (body : Bytes) :
    ∃ response content after, create path body tree = (response, after) ∧
      Written made place body response content after := by
  obtain ⟨response, content, after, hwritten, hresult⟩ :=
    exists_written_of_fills (FileTree.create_of_locate hslash hlocate hnode body)
  refine ⟨response, content, after, ?_, hwritten⟩
  unfold create
  rw [hdocument, hmade]
  dsimp only
  rcases hresult with ⟨hresult, rfl⟩ | ⟨hresult, rfl⟩ <;> rw [hresult] <;> rfl

/-- Otherwise nothing is written; at most, directories have been made then. -/
theorem create_cases (path : String) (body : Bytes) (tree : FileTree) :
    (∃ made place response content after, isDocumentPath path = true ∧
      path.toList.getLast? ≠ some '/' ∧ tree.makeParents path = (made, none) ∧
      made.locate path = .ok place ∧ made.node? place = none ∧
      create path body tree = (response, after) ∧
      Written made place body response content after) ∨
    ∃ response, (response.status = 400 ∨ response.status = 500) ∧
      (create path body tree = (response, tree) ∨ isDocumentPath path = true ∧
        create path body tree = (response, (tree.makeParents path).1)) := by
  cases hdocument : isDocumentPath path with
  | false =>
    unfold create
    rw [hdocument]
    exact Or.inr ⟨_, Or.inl rfl, Or.inl rfl⟩
  | true =>
    cases hmade : tree.makeParents path with
    | mk made error? =>
      cases error? with
      | some error =>
        unfold create
        rw [hdocument, hmade]
        exact Or.inr ⟨_, Or.inr rfl, Or.inr ⟨rfl, rfl⟩⟩
      | none =>
        rcases FileTree.create_cases made path body with
          ⟨hslash, place, hlocate, hnode⟩ | ⟨error, hcreate⟩
        · obtain ⟨response, content, after, heq, hwritten⟩ :=
            create_of_locate hdocument hmade hslash hlocate hnode body
          exact Or.inl ⟨made, place, response, content, after, rfl, hslash, rfl, hlocate, hnode,
            heq, hwritten⟩
        · right
          unfold create
          rw [hdocument, hmade]
          dsimp only
          rw [hcreate]
          cases error with
          | alreadyExists => exact ⟨_, Or.inl rfl, Or.inr ⟨rfl, rfl⟩⟩
          | _ => exact ⟨_, Or.inr rfl, Or.inr ⟨rfl, rfl⟩⟩

/-- Which documents are created. -/
theorem create_status_eq_iff {body : Bytes} :
    (create path body tree).1.status = 204 ↔
      isDocumentPath path = true ∧ path.toList.getLast? ≠ some '/' ∧ tree.HasRoomFor body ∧
        ∃ made place, tree.makeParents path = (made, none) ∧ made.locate path = .ok place ∧
          made.node? place = none := by
  have hroom : ∀ made, tree.makeParents path = (made, none) →
      (made.HasRoomFor body ↔ tree.HasRoomFor body) := by
    intro made hmade
    have hsame := room_makeParents tree path
    rw [hmade] at hsame
    exact hasRoomFor_congr hsame
  constructor
  · intro hstatus
    rcases create_cases path body tree with
      ⟨made, place, response, content, after, hdocument, hslash, hmade, hlocate, hnode, heq,
        hwritten⟩ | ⟨response, hother, heq⟩
    · rw [heq] at hstatus
      have hfits := (hroom made hmade).mp (hwritten.status.mp hstatus)
      exact ⟨hdocument, hslash, hfits, made, place, hmade, hlocate, hnode⟩
    · rcases heq with heq | ⟨-, heq⟩ <;> simp [heq] at hstatus <;> omega
  · rintro ⟨hdocument, hslash, hfits, made, place, hmade, hlocate, hnode⟩
    obtain ⟨response, content, after, heq, hwritten⟩ :=
      create_of_locate hdocument hmade hslash hlocate hnode body
    rw [heq]
    exact hwritten.status.mpr ((hroom made hmade).mpr hfits)

/-- A file is written where the path leads to one. -/
theorem update_of_locate {old : Bytes} (hdocument : isDocumentPath path = true)
    (hlocate : tree.locate path = .ok place) (hnode : tree.node? place = some (.file old))
    (body : Bytes) :
    ∃ response content after, update path body tree = (response, after) ∧
      Written tree place body response content after := by
  obtain ⟨response, content, after, hwritten, hresult⟩ :=
    exists_written_of_fills (write_of_locate hlocate hnode body)
  refine ⟨response, content, after, ?_, hwritten⟩
  unfold update
  rw [hdocument, isFile_iff.mpr ⟨place, old, hlocate, hnode⟩]
  rcases hresult with ⟨hresult, rfl⟩ | ⟨hresult, rfl⟩ <;> rw [hresult] <;> rfl

/-- Otherwise replacing is refused. -/
theorem update_cases (path : String) (body : Bytes) (tree : FileTree) :
    (∃ place old response content after, isDocumentPath path = true ∧
      tree.locate path = .ok place ∧ tree.node? place = some (.file old) ∧
      update path body tree = (response, after) ∧
      Written tree place body response content after) ∨
    ∃ response, response.status ≠ 204 ∧ update path body tree = (response, tree) := by
  cases hdocument : isDocumentPath path with
  | false =>
    unfold update
    rw [hdocument]
    exact Or.inr ⟨.plain 400 _, by simp, rfl⟩
  | true =>
    cases hfile : tree.isFile path with
    | false =>
      unfold update
      rw [hdocument, hfile]
      exact Or.inr ⟨.notFound, by simp, rfl⟩
    | true =>
      obtain ⟨place, old, hlocate, hnode⟩ := isFile_iff.mp hfile
      obtain ⟨response, content, after, heq, hwritten⟩ :=
        update_of_locate hdocument hlocate hnode body
      exact Or.inl ⟨place, old, response, content, after, rfl, hlocate, hnode, heq, hwritten⟩

/-- Which documents are replaced. -/
theorem update_status_eq_iff {body : Bytes} :
    (update path body tree).1.status = 204 ↔
      isDocumentPath path = true ∧ tree.HasRoomFor body ∧
        ∃ place old, tree.locate path = .ok place ∧ tree.node? place = some (.file old) := by
  constructor
  · intro hstatus
    rcases update_cases path body tree with
      ⟨place, old, response, content, after, hdocument, hlocate, hnode, heq, hwritten⟩ |
      ⟨response, hother, heq⟩
    · rw [heq] at hstatus
      exact ⟨hdocument, hwritten.status.mp hstatus, place, old, hlocate, hnode⟩
    · rw [heq] at hstatus
      exact absurd hstatus hother
  · rintro ⟨hdocument, hfits, place, old, hlocate, hnode⟩
    obtain ⟨response, content, after, heq, hwritten⟩ :=
      update_of_locate hdocument hlocate hnode body
    rw [heq]
    exact hwritten.status.mpr hfits

/-- Removing succeeds where the path leads to a file. -/
theorem delete_of_locate {old : Bytes} (hlocate : tree.locate path = .ok place)
    (hnode : tree.node? place = some (.file old)) :
    delete path tree = (.ofStatus 204, tree.erase place) := by
  have hstat : tree.stat path = .ok (.file old) := stat_eq_ok_iff.mpr ⟨place, hlocate, hnode⟩
  have hremove : tree.remove path = .ok (tree.erase place) :=
    remove_eq_ok_iff.mpr ⟨place, old, hlocate, hnode, rfl⟩
  unfold delete
  rw [hstat, hremove]

/-- Otherwise it is refused. -/
theorem delete_cases (path : String) (tree : FileTree) :
    (∃ place old, tree.locate path = .ok place ∧ tree.node? place = some (.file old) ∧
      delete path tree = (.ofStatus 204, tree.erase place)) ∨
    ∃ response, response.status ≠ 204 ∧ delete path tree = (response, tree) := by
  cases hstat : tree.stat path with
  | error error =>
    unfold delete
    rw [hstat]
    exact Or.inr ⟨.notFound, by simp, rfl⟩
  | ok node =>
    cases node with
    | directory =>
      unfold delete
      rw [hstat]
      exact Or.inr ⟨.plain 400 _, by simp, rfl⟩
    | file old =>
      obtain ⟨place, hlocate, hnode⟩ := stat_eq_ok_iff.mp hstat
      exact Or.inl ⟨place, old, hlocate, hnode, delete_of_locate hlocate hnode⟩

theorem delete_status_eq_iff :
    (delete path tree).1.status = 204 ↔
      ∃ place old, tree.locate path = .ok place ∧ tree.node? place = some (.file old) := by
  constructor
  · intro hstatus
    rcases delete_cases path tree with ⟨place, old, hlocate, hnode, -⟩ | ⟨response, hother, heq⟩
    · exact ⟨place, old, hlocate, hnode⟩
    · rw [heq] at hstatus
      exact absurd hstatus hother
  · rintro ⟨place, old, hlocate, hnode⟩
    rw [delete_of_locate hlocate hnode]
    rfl

/-- A document is shown where the path leads to a file with text. -/
theorem get_of_readText {text : String} (hdocument : isDocumentPath path = true)
    (htext : tree.readText path = .ok text) :
    (store.get path tree).status = 200 ∧
      (store.get path tree).body = some (Text.encode (store.page text)) := by
  unfold get
  rw [hdocument, htext]
  exact ⟨rfl, rfl⟩

/-- Otherwise the answer is an error. -/
theorem get_cases (store : DocumentStore) (path : String) (tree : FileTree) :
    (isDocumentPath path = true ∧ ∃ text, tree.readText path = .ok text) ∨
    (store.get path tree).status ≠ 200 ∧ (store.get path tree).status ≠ 204 := by
  unfold get
  cases isDocumentPath path with
  | false => exact Or.inr (by simp)
  | true =>
    cases htext : tree.readText path with
    | ok text => exact Or.inl ⟨rfl, text, rfl⟩
    | error error => exact Or.inr (by cases error <;> simp)

theorem get_status_ne (store : DocumentStore) (path : String) (tree : FileTree) :
    (store.get path tree).status ≠ 204 := by
  rcases store.get_cases path tree with ⟨hdocument, text, htext⟩ | ⟨-, hstatus⟩
  · rw [(get_of_readText hdocument htext).1]
    decide
  · exact hstatus

theorem get_status_eq_iff :
    (store.get path tree).status = 200 ↔
      isDocumentPath path = true ∧ ∃ text, tree.readText path = .ok text := by
  constructor
  · intro hstatus
    rcases store.get_cases path tree with hshown | ⟨hother, -⟩
    · exact hshown
    · exact absurd hstatus hother
  · rintro ⟨hdocument, text, htext⟩
    exact (get_of_readText hdocument htext).1

/-! ### One request -/

/-- All that a request can come to, with the answer and the tree that it leaves. -/
inductive Step (store : DocumentStore) (request : Request) (tree : FileTree) :
    Response → FileTree → Prop
  /-- Nothing changes. -/
  | unchanged {response : Response} (status : response.status ≠ 204) :
      Step store request tree response tree
  /-- A document is created, once the directories above it have been made, and written as far as
  there is room. -/
  | created {path : String} {made after : FileTree} {place : Place} {response : Response}
      {content : Bytes} (resolved : store.resolve request.uri.path = some path)
      (method : request.method = "POST") (body : hasDocumentBody request = true)
      (document : isDocumentPath path = true) (parents : tree.makeParents path = (made, none))
      (located : made.locate path = .ok place) (free : made.node? place = none)
      (written : Written made place request.body response content after) :
      Step store request tree response after
  /-- No document is created, but the directories above it may have been made. -/
  | prepared {path : String} {response : Response}
      (resolved : store.resolve request.uri.path = some path) (method : request.method = "POST")
      (body : hasDocumentBody request = true) (document : isDocumentPath path = true)
      (status : response.status = 400 ∨ response.status = 500) :
      Step store request tree response (tree.makeParents path).1
  /-- A document is written anew, as far as there is room. -/
  | replaced {path : String} {after : FileTree} {place : Place} {response : Response}
      {old content : Bytes} (resolved : store.resolve request.uri.path = some path)
      (method : request.method = "PUT") (body : hasDocumentBody request = true)
      (document : isDocumentPath path = true) (located : tree.locate path = .ok place)
      (found : tree.node? place = some (.file old))
      (written : Written tree place request.body response content after) :
      Step store request tree response after
  /-- A file is removed. -/
  | removed {path : String} {place : Place} {old : Bytes}
      (resolved : store.resolve request.uri.path = some path)
      (method : request.method = "DELETE") (located : tree.locate path = .ok place)
      (found : tree.node? place = some (.file old)) :
      Step store request tree (.ofStatus 204) (tree.erase place)

theorem handler_of_resolve_eq_none (h : store.resolve request.uri.path = none) :
    store.handler request tree = (.notFound, tree) := by
  unfold handler
  rw [h]

/-- The method decides what is done with a path. -/
theorem handler_of_resolve (h : store.resolve request.uri.path = some path) :
    store.handler request tree =
      if request.method = "GET" then (store.get path tree, tree)
      else if request.method = "DELETE" then delete path tree
      else if request.method = "POST" ∧ hasDocumentBody request = true then
        create path request.body tree
      else if request.method = "PUT" ∧ hasDocumentBody request = true then
        update path request.body tree
      else (.badRequest, tree) := by
  unfold handler
  rw [h]
  dsimp only
  split <;> grind

theorem step_create (hresolve : store.resolve request.uri.path = some path)
    (hmethod : request.method = "POST") (hbody : hasDocumentBody request = true) :
    store.Step request tree (create path request.body tree).1
      (create path request.body tree).2 := by
  rcases create_cases path request.body tree with
    ⟨made, place, response, content, after, hdocument, -, hmade, hlocate, hnode, heq, hwritten⟩ |
    ⟨response, hstatus, heq | ⟨hdocument, heq⟩⟩
  · rw [heq]
    exact .created hresolve hmethod hbody hdocument hmade hlocate hnode hwritten
  · rw [heq]
    exact .unchanged (by rcases hstatus with h | h <;> simp [h])
  · rw [heq]
    exact .prepared hresolve hmethod hbody hdocument hstatus

theorem step_update (hresolve : store.resolve request.uri.path = some path)
    (hmethod : request.method = "PUT") (hbody : hasDocumentBody request = true) :
    store.Step request tree (update path request.body tree).1
      (update path request.body tree).2 := by
  rcases update_cases path request.body tree with
    ⟨place, old, response, content, after, hdocument, hlocate, hnode, heq, hwritten⟩ |
    ⟨response, hne, heq⟩
  · rw [heq]
    exact .replaced hresolve hmethod hbody hdocument hlocate hnode hwritten
  · rw [heq]
    exact .unchanged hne

theorem step_delete (hresolve : store.resolve request.uri.path = some path)
    (hmethod : request.method = "DELETE") :
    store.Step request tree (delete path tree).1 (delete path tree).2 := by
  rcases delete_cases path tree with ⟨place, old, hlocate, hnode, heq⟩ | ⟨response, hne, heq⟩
  · rw [heq]
    exact .removed hresolve hmethod hlocate hnode
  · rw [heq]
    exact .unchanged hne

/-- **Nothing else happens.** -/
theorem step_handler (store : DocumentStore) (request : Request) (tree : FileTree) :
    store.Step request tree (store.handler request tree).1 (store.handler request tree).2 := by
  cases hresolve : store.resolve request.uri.path with
  | none =>
    rw [handler_of_resolve_eq_none hresolve]
    exact .unchanged (by simp)
  | some path =>
    rw [handler_of_resolve hresolve]
    split
    · exact .unchanged (store.get_status_ne path tree)
    · split
      · next hdelete => exact step_delete hresolve hdelete
      · split
        · next hpost => exact step_create hresolve hpost.1 hpost.2
        · split
          · next hput => exact step_update hresolve hput.1 hput.2
          · exact .unchanged (by simp)

end DocumentStore

end Waymark
