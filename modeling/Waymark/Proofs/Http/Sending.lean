import Mathlib.Data.List.Nodup
import Waymark.Dispatcher
import Waymark.Proofs.Server.Registration
import Waymark.Proofs.Site.Serve

/-!
# Waymark.Proofs.Http.Sending

Responses are sent as the handlers give them.

What is sent of some headers is the table of those that are well-formed, under their names in
lower case. If no two names become one, it binds each name to the one value there is for it, and
the order of the headers does not count (`get?_sentHeaders_eq_some_iff`, `sentHeaders_perm`).

The handlers use four names, which stay distinct, and values without control characters: media
types, numbers and dates. `Response.HasKnownHeaders` says so, and every way to make a response keeps
it. So nothing that the handlers say is lost (`Response.HasKnownHeaders.isSentWhole`). Which media
types there are does not matter for this, as long as they may be sent
(`StaticSite.hasKnownHeaders_of_serve`).
-/

namespace Waymark

namespace Http

/-! ### Values without control characters -/

/-- A text may be the value of a header. -/
def IsValueText (text : String) : Prop := isHeaderValue (Text.encode text) = true

instance (text : String) : Decidable (IsValueText text) :=
  inferInstanceAs (Decidable (_ = true))

theorem IsValueText.append {text rest : String} (h : IsValueText text) (hrest : IsValueText rest) :
    IsValueText (text ++ rest) := by
  rw [IsValueText, isHeaderValue, Text.encode, String.toList_append, List.flatMap_append,
    List.all_append]
  exact Bool.and_eq_true_iff.mpr ⟨h, hrest⟩

theorem isValueText_of_digits {cs : List Char} (h : ∀ c ∈ cs, c.isDigit = true) :
    IsValueText (String.ofList cs) := by
  rw [IsValueText, isHeaderValue, Text.encode, String.toList_ofList, List.all_eq_true]
  intro b hb
  obtain ⟨c, hc, hbyte⟩ := List.mem_flatMap.mp hb
  have hdigit := h c hc
  rw [Char.isDigit, Bool.and_eq_true, decide_eq_true_eq, decide_eq_true_eq] at hdigit
  have hlow : 48 ≤ c.val.toNat := hdigit.1
  have hhigh : c.val.toNat ≤ 57 := hdigit.2
  rw [String.utf8EncodeChar.eq_1, if_pos (by omega), List.mem_singleton] at hbyte
  have hsize : b.toNat = c.val.toNat := by
    rw [hbyte]
    exact UInt8.toNat_ofNat_of_lt' (Nat.lt_of_le_of_lt hhigh (by decide))
  have hblank : 32 ≤ b := by
    rw [UInt8.le_iff_toNat_le, hsize]
    exact Nat.le_trans (by decide) hlow
  have hdelete : b ≠ 127 := by
    rintro rfl
    exact absurd (hsize.trans_le hhigh) (by decide)
  simp [isValueByte, hblank, hdelete]

theorem isValueText_toString (n : Nat) : IsValueText (toString n) := by
  rw [Nat.toString_eq_ofList_toDigits]
  exact isValueText_of_digits fun c => Nat.isDigit_of_mem_toDigits (by decide) (by decide)

theorem isValueText_padded (width n : Nat) : IsValueText (padded width n) := by
  refine isValueText_of_digits fun c hc => ?_
  rcases List.mem_append.mp hc with hzero | hdigit
  · rw [List.eq_of_mem_replicate hzero]
    rfl
  · exact Nat.isDigit_of_mem_toDigits (by decide) (by decide) hdigit

theorem isValueText_getD {names : List String} (h : ∀ name ∈ names, IsValueText name) (i : Nat) :
    IsValueText (names.getD i "") := by
  rw [List.getD_eq_getElem?_getD]
  cases hname : names[i]? with
  | none => decide
  | some name => exact h name (List.mem_of_getElem? hname)

theorem isValueText_printDate (seconds : Nat) : IsValueText (printDate seconds) := by
  have hweekday := isValueText_getD (show ∀ name ∈ weekdayNames, IsValueText name by decide)
  have hmonth := isValueText_getD (show ∀ name ∈ monthNames, IsValueText name by decide)
  have hcomma : IsValueText ", " := by decide
  have hblank : IsValueText " " := by decide
  have hcolon : IsValueText ":" := by decide
  have hzone : IsValueText " GMT" := by decide
  have hnumber := isValueText_padded
  exact (((((((((((((hweekday _).append hcomma).append (hnumber _ _)).append hblank).append
    (hmonth _)).append hblank).append (hnumber _ _)).append hblank).append
    (hnumber _ _)).append hcolon).append (hnumber _ _)).append hcolon).append
    (hnumber _ _)).append hzone

/-- A text is stored in its UTF-8 form. -/
theorem encode_eq_toByteArray (text : String) :
    Text.encode text = text.toByteArray.data.toList := by
  rw [← String.utf8Encode_toList]
  simp [Text.encode, List.utf8Encode]

theorem isValueText_of_mem_mediaTypes : ∀ entry ∈ mediaTypes, IsValueText entry.1 := by
  simp only [IsValueText, encode_eq_toByteArray]
  decide +kernel

theorem isValueText_mediaTypeOf (path : String) : IsValueText (mediaTypeOf path) := by
  have hunknown : IsValueText unknownMediaType := by decide
  unfold mediaTypeOf
  split
  · exact hunknown
  · split
    · next mediaType extensions hfind =>
      exact isValueText_of_mem_mediaTypes (mediaType, extensions) (List.mem_of_find?_eq_some hfind)
    · exact hunknown

/-! ### What is sent -/

theorem mem_sent_iff {headers : List (String × String)} {name value : String} :
    (name, value) ∈ ((headers.filter fun (name, value) =>
        isHeaderName name && isHeaderValue (Text.encode value)).map
          fun (name, value) => (lowerCase name, value)) ↔
      ∃ spelled, (spelled, value) ∈ headers ∧ isHeaderName spelled = true ∧ IsValueText value ∧
        lowerCase spelled = name := by
  rw [List.mem_map]
  constructor
  · rintro ⟨⟨spelled, other⟩, hmem, heq⟩
    obtain ⟨hheader, haccepted⟩ := List.mem_filter.mp hmem
    obtain ⟨rfl, rfl⟩ := Prod.mk.inj heq
    obtain ⟨hname, hvalue⟩ := Bool.and_eq_true_iff.mp haccepted
    exact ⟨spelled, hheader, hname, hvalue, rfl⟩
  · rintro ⟨spelled, hheader, hname, hvalue, rfl⟩
    have haccepted := Bool.and_eq_true_iff.mpr ⟨hname, hvalue⟩
    exact ⟨(spelled, value), List.mem_filter.mpr ⟨hheader, haccepted⟩, rfl⟩

/-- Names that are distinct in lower case are so after some are left out. -/
theorem nodup_sent {headers : List (String × String)}
    (h : (headers.map fun (name, _) => lowerCase name).Nodup) (accepts : String × String → Bool) :
    (((headers.filter accepts).map fun (name, value) => (lowerCase name, value)).map
      Prod.fst).Nodup := by
  rw [List.map_map]
  exact h.sublist (List.filter_sublist.map _)

/-- **Each header that is well-formed is sent, and no other.** -/
theorem get?_sentHeaders_eq_some_iff {headers : List (String × String)}
    (h : (headers.map fun (name, _) => lowerCase name).Nodup) {name value : String} :
    (sentHeaders headers).get? name = some value ↔
      ∃ spelled, (spelled, value) ∈ headers ∧ isHeaderName spelled = true ∧ IsValueText value ∧
        lowerCase spelled = name := by
  rw [sentHeaders, Table.get?_ofList_eq_some_iff_mem (nodup_sent h _), mem_sent_iff]

/-- The order of the headers does not count. -/
theorem sentHeaders_perm {headers others : List (String × String)}
    (h : (headers.map fun (name, _) => lowerCase name).Nodup) (horder : headers.Perm others) :
    sentHeaders headers = sentHeaders others :=
  Table.ofList_perm ((horder.filter _).map _) (nodup_sent h _)

namespace Response

/-- No two names of headers differ in case only. -/
def HasDistinctNames (response : Response) : Prop := (response.headers.keys.map lowerCase).Nodup

instance (response : Response) : Decidable response.HasDistinctNames :=
  inferInstanceAs (Decidable (List.Nodup _))

/-- All headers are sent: they are well-formed, and each arrives under a name of its own. -/
structure IsSentWhole (response : Response) : Prop where
  /-- No header overwrites another. -/
  distinct : response.HasDistinctNames
  /-- No header is dropped. -/
  accepted : ∀ name value, response.headers.get? name = some value →
    isHeaderName name = true ∧ isHeaderValue (Text.encode value) = true
  /-- Each header arrives. -/
  arrives : ∀ name value, response.headers.get? name = some value →
    response.send.headers.get? (lowerCase name) = some value

theorem HasDistinctNames.nodup_entries {response : Response} (h : response.HasDistinctNames) :
    (response.headers.entries.map fun (name, _) => lowerCase name).Nodup := by
  rwa [HasDistinctNames, Table.keys, List.map_map] at h

theorem HasDistinctNames.get?_send_eq_some_iff {response : Response} (h : response.HasDistinctNames)
    {name value : String} :
    response.send.headers.get? name = some value ↔
      ∃ spelled, response.headers.get? spelled = some value ∧ isHeaderName spelled = true ∧
        IsValueText value ∧ lowerCase spelled = name := by
  simp only [@Table.get?_eq_some_iff_mem _ response.headers]
  exact get?_sentHeaders_eq_some_iff h.nodup_entries

/-! ### The headers of the handlers -/

/-- The names that the handlers give to headers. -/
def knownNames : List String := ["Accept-Ranges", "Content-Range", "Content-Type", "Last-Modified"]

/-- The headers have known names and values that may be sent. -/
def HasKnownHeaders (response : Response) : Prop :=
  ∀ name value, response.headers.get? name = some value → name ∈ knownNames ∧ IsValueText value

theorem eq_of_lowerCase_eq :
    ∀ name ∈ knownNames, ∀ other ∈ knownNames, lowerCase name = lowerCase other → name = other := by
  decide

theorem isHeaderName_of_mem_knownNames : ∀ name ∈ knownNames, isHeaderName name = true := by
  decide

theorem HasKnownHeaders.isSentWhole {response : Response} (h : response.HasKnownHeaders) :
    response.IsSentWhole := by
  have hknown : ∀ name ∈ response.headers.keys, name ∈ knownNames := by
    intro name hname
    obtain ⟨value, hvalue⟩ := Table.contains_eq_true_iff.mp (Table.mem_keys_iff.mp hname)
    exact (h name value hvalue).1
  have hdistinct : response.HasDistinctNames :=
    response.headers.nodup_keys.map_on fun name hname other hother =>
      eq_of_lowerCase_eq name (hknown name hname) other (hknown other hother)
  have haccepted : ∀ name value, response.headers.get? name = some value →
      isHeaderName name = true ∧ IsValueText value := fun name value hheader =>
    ⟨isHeaderName_of_mem_knownNames name (h name value hheader).1, (h name value hheader).2⟩
  refine ⟨hdistinct, haccepted, fun name value hheader => ?_⟩
  obtain ⟨hname, hvalue⟩ := haccepted name value hheader
  exact hdistinct.get?_send_eq_some_iff.mpr ⟨name, hheader, hname, hvalue, rfl⟩

theorem hasKnownHeaders_ofStatus (code : Nat) : (ofStatus code).HasKnownHeaders := by
  intro name value h
  cases h

theorem hasKnownHeaders_withBody (code : Nat) (body : Bytes) :
    (withBody code body).HasKnownHeaders :=
  hasKnownHeaders_ofStatus code

theorem HasKnownHeaders.header {response : Response} (h : response.HasKnownHeaders)
    {name value : String} (hname : name ∈ knownNames) (hvalue : IsValueText value) :
    (response.header name value).HasKnownHeaders := by
  intro other bound hbound
  rw [Response.header, Table.get?_insert] at hbound
  split at hbound
  · next heq =>
    obtain rfl := Option.some.inj hbound
    exact ⟨heq ▸ hname, hvalue⟩
  · exact h other bound hbound

theorem hasKnownHeaders_plain (code : Nat) (text : String) : (plain code text).HasKnownHeaders :=
  (hasKnownHeaders_withBody code _).header (by decide) (by decide)

theorem hasKnownHeaders_badRequest : badRequest.HasKnownHeaders := hasKnownHeaders_plain _ _

theorem hasKnownHeaders_notFound : notFound.HasKnownHeaders := hasKnownHeaders_plain _ _

theorem hasKnownHeaders_internalError : internalError.HasKnownHeaders := hasKnownHeaders_plain _ _

end Response

end Http

open Http Response

/-! ### The handlers -/

namespace StaticSite

theorem hasKnownHeaders_respond {file : ServedFile} (htype : IsValueText file.mediaType)
    (hdate : IsValueText file.lastModified)
    (hrange : ∀ range, file.contentRange? = some range → IsValueText range) :
    (respond file).HasKnownHeaders := by
  have hbase := (((hasKnownHeaders_withBody file.status file.content).header
    (by decide : "Content-Type" ∈ knownNames) htype).header
    (by decide : "Accept-Ranges" ∈ knownNames) (by decide : IsValueText "bytes")).header
    (by decide : "Last-Modified" ∈ knownNames) hdate
  unfold respond
  split
  · next range hsome => exact hbase.header (by decide) (hrange range hsome)
  · exact hbase

/-- The note on a part of a file may be sent. -/
theorem isValueText_note (first last size : Nat) :
    IsValueText s!"bytes {first}-{last}/{size}" := by
  have hunit : IsValueText "bytes " := by decide
  have hdash : IsValueText "-" := by decide
  have hslash : IsValueText "/" := by decide
  exact ((((hunit.append (isValueText_toString _)).append hdash).append
    (isValueText_toString _)).append hslash).append (isValueText_toString _)

/-- Whatever the media types and dates are, as long as they may be sent, a file that is served
has known headers. -/
theorem hasKnownHeaders_of_serve {site : StaticSite} {tree : FileTree} {request : String}
    {range? : Option String} {file : ServedFile}
    (h : site.serve tree request range? = .ok (some file)) {mediaType date : String}
    (htype : IsValueText mediaType) (hdate : IsValueText date) :
    (respond { file with mediaType, lastModified := date }).HasKnownHeaders := by
  refine hasKnownHeaders_respond htype hdate fun note hnote => ?_
  obtain ⟨path, bytes, rfl | ⟨first, last, size, rfl⟩⟩ := serve_inv h
  · cases hnote
  · obtain rfl := Option.some.inj hnote
    exact isValueText_note first last size

theorem hasKnownHeaders_handler (site : StaticSite) (request : Request) (tree : FileTree) :
    (site.handler request tree).1.HasKnownHeaders := by
  unfold handler
  dsimp only
  split
  · next file hserve =>
    have hvalues : IsValueText file.mediaType ∧ IsValueText file.lastModified := by
      obtain ⟨path, bytes, rfl | ⟨first, last, size, rfl⟩⟩ := serve_inv hserve <;>
        exact ⟨isValueText_mediaTypeOf path, isValueText_printDate _⟩
    exact hasKnownHeaders_of_serve hserve hvalues.1 hvalues.2
  · exact hasKnownHeaders_notFound
  · exact hasKnownHeaders_internalError

end StaticSite

namespace DocumentStore

theorem hasKnownHeaders_get (store : DocumentStore) (path : String) (tree : FileTree) :
    (store.get path tree).HasKnownHeaders := by
  unfold get
  split
  · exact hasKnownHeaders_plain _ _
  · split
    · exact (hasKnownHeaders_withBody _ _).header (by decide) (by decide)
    · exact hasKnownHeaders_notFound
    · exact hasKnownHeaders_plain _ _

theorem hasKnownHeaders_create (path : String) (body : Bytes) (tree : FileTree) :
    (create path body tree).1.HasKnownHeaders := by
  unfold create
  split
  · exact hasKnownHeaders_plain _ _
  · split
    · exact hasKnownHeaders_internalError
    · split
      · exact hasKnownHeaders_ofStatus _
      · exact hasKnownHeaders_plain _ _
      · exact hasKnownHeaders_internalError

theorem hasKnownHeaders_update (path : String) (body : Bytes) (tree : FileTree) :
    (update path body tree).1.HasKnownHeaders := by
  unfold update
  split
  · exact hasKnownHeaders_plain _ _
  · split
    · exact hasKnownHeaders_notFound
    · split
      · exact hasKnownHeaders_ofStatus _
      · exact hasKnownHeaders_internalError

theorem hasKnownHeaders_delete (path : String) (tree : FileTree) :
    (delete path tree).1.HasKnownHeaders := by
  unfold delete
  split
  · exact hasKnownHeaders_notFound
  · exact hasKnownHeaders_plain _ _
  · split
    · exact hasKnownHeaders_ofStatus _
    · exact hasKnownHeaders_internalError

theorem hasKnownHeaders_handler (store : DocumentStore) (request : Request) (tree : FileTree) :
    (store.handler request tree).1.HasKnownHeaders := by
  unfold handler
  split
  · exact hasKnownHeaders_notFound
  · split
    · exact store.hasKnownHeaders_get _ tree
    · exact hasKnownHeaders_create _ _ tree
    · exact hasKnownHeaders_update _ _ tree
    · exact hasKnownHeaders_delete _ tree
    · exact hasKnownHeaders_badRequest

end DocumentStore

namespace Handler

/-- The handlers that there are: those that need no files, sites and document stores. -/
inductive IsStandard : Handler → Prop
  /-- Show the request. -/
  | echo : IsStandard echo
  /-- Say that the server is alive. -/
  | health : IsStandard health
  /-- Answer after a while. -/
  | sleep : IsStandard sleep
  /-- Say that nothing is there. -/
  | missing : IsStandard missing
  /-- Send files. -/
  | site (site : StaticSite) : IsStandard site.handler
  /-- Show and change documents. -/
  | documents (store : DocumentStore) : IsStandard store.handler

theorem IsStandard.hasKnownHeaders {handler : Handler} (h : handler.IsStandard)
    (request : Request) (tree : FileTree) : (handler request tree).1.HasKnownHeaders := by
  cases h with
  | echo => exact hasKnownHeaders_plain _ _
  | health =>
    unfold Handler.health Handler.pure
    dsimp only
    split <;> exact hasKnownHeaders_plain _ _
  | sleep => exact hasKnownHeaders_plain _ _
  | missing =>
    unfold Handler.missing Handler.pure
    dsimp only
    split
    · exact hasKnownHeaders_notFound
    · exact hasKnownHeaders_badRequest
  | site site => exact site.hasKnownHeaders_handler request tree
  | documents store => exact store.hasKnownHeaders_handler request tree

end Handler

/-- The full registry as the registrations that make it. -/
theorem fullRegistry_eq : fullRegistry = Registry.ofRegistrations [
    ⟨"EchoHandler", [], fun _ _ => .echo⟩, ⟨"HealthHandler", [], fun _ _ => .health⟩,
    ⟨"SleepHandler", [], fun _ _ => .sleep⟩, ⟨errorHandlerName, [], fun _ _ => .missing⟩,
    ⟨"StaticHandler", ["root"], fun path args =>
      StaticSite.handler { location := path, root := (args.get? "root").getD "" }⟩,
    ⟨"MarkdownHandler", ["data_path", "format_path"], fun path args =>
      DocumentStore.handler
        ⟨path, (args.get? "data_path").getD "", (args.get? "format_path").getD ""⟩⟩] := by
  simp only [Registry.ofRegistrations, List.foldl_cons, List.foldl_nil]
  rfl

/-- The handlers of the full registry are standard. -/
theorem isStandard_of_maker? {name : String} {make : String → Arguments → Handler}
    (h : fullRegistry.maker? name = some make) (path : String) (args : Arguments) :
    Handler.IsStandard (make path args) := by
  rw [fullRegistry_eq] at h
  obtain ⟨registration, hmem, -, rfl⟩ := Registry.exists_of_maker? h
  simp only [List.mem_cons, List.not_mem_nil, or_false] at hmem
  rcases hmem with rfl | rfl | rfl | rfl | rfl | rfl <;> dsimp only
  · exact .echo
  · exact .health
  · exact .sleep
  · exact .missing
  · exact .site _
  · exact .documents _

/-- Whatever the routes, a dispatcher with the full registry answers with known headers. -/
theorem Dispatcher.hasKnownHeaders_dispatch (router : Router) (request : Request)
    (tree : FileTree) :
    (Dispatcher.dispatch ⟨router, fullRegistry⟩ request tree).1.HasKnownHeaders := by
  unfold dispatch
  dsimp only
  split
  · unfold fallback
    dsimp only
    split
    · next make hmake => exact (isStandard_of_maker? hmake _ _).hasKnownHeaders request tree
    · exact hasKnownHeaders_notFound
  · split
    · next location _ handler hcreate =>
      obtain ⟨make, hmake, rfl⟩ := Option.map_eq_some_iff.mp hcreate
      exact (isStandard_of_maker? hmake _ _).hasKnownHeaders request tree
    · exact hasKnownHeaders_internalError

/-- **No response is altered on its way out.** Of a response whose names are distinct ignoring
case, the status, the body and exactly the well-formed headers are sent, in whichever order the
headers come. Every response of a standard handler is one, and all its headers are sent; so is
every response of a dispatcher, and the response that serves a file with any other media type and
date that may be sent. -/
theorem send_unaltered :
    (∀ response : Response, response.HasDistinctNames →
      response.send.status = response.status ∧ response.send.body = response.body.getD [] ∧
      (∀ name value, response.send.headers.get? name = some value ↔
        ∃ spelled, response.headers.get? spelled = some value ∧ isHeaderName spelled = true ∧
          isHeaderValue (Text.encode value) = true ∧ lowerCase spelled = name) ∧
      ∀ order : List (String × String), order.Perm response.headers.entries →
        sentHeaders order = response.send.headers) ∧
    (∀ handler : Handler, handler.IsStandard → ∀ request tree,
      (handler request tree).1.IsSentWhole) ∧
    (∀ router request tree,
      (Dispatcher.dispatch ⟨router, fullRegistry⟩ request tree).1.IsSentWhole) ∧
    ∀ (site : StaticSite) tree request range? file,
      site.serve tree request range? = .ok (some file) → ∀ mediaType date,
        IsValueText mediaType → IsValueText date →
        (StaticSite.respond { file with mediaType, lastModified := date }).IsSentWhole := by
  refine ⟨fun response hdistinct => ⟨rfl, rfl, ?_, ?_⟩, ?_, ?_, ?_⟩
  · intro name value
    exact hdistinct.get?_send_eq_some_iff
  · intro order horder
    exact (sentHeaders_perm hdistinct.nodup_entries horder.symm).symm
  · intro handler hstandard request tree
    exact (hstandard.hasKnownHeaders request tree).isSentWhole
  · intro router request tree
    exact (Dispatcher.hasKnownHeaders_dispatch router request tree).isSentWhole
  · intro site tree request range? file hserve mediaType date htype hdate
    exact (StaticSite.hasKnownHeaders_of_serve hserve htype hdate).isSentWhole

/-- An ill-formed header is left out in any order, and those of a part of a file are sent. -/
theorem send_unaltered_but_ill_formed :
    let response := ((Response.plain 201 "made").header "X-Bad Header" "x").header "X-Good" "y"
    let order := [("X-Good", "y"), ("Content-Type", "text/plain"), ("X-Bad Header", "x")]
    let tree := ({} : FileTree).set ["x.txt"] (.file (Text.encode "hello"))
    let request : Request := ⟨"GET", ⟨none, none, "/x.txt", none⟩, .http11,
      [("range", [Text.encode "bytes=0-1"])], []⟩
    response.HasDistinctNames ∧ order.Perm response.headers.entries ∧
      sentHeaders order = response.send.headers ∧
      response.send.headers.entries = [("content-type", "text/plain"), ("x-good", "y")] ∧
      (StaticSite.handler {} request tree).1.send.headers.get? "content-range" =
        some "bytes 0-1/5" := by
  intro response order tree request
  have hdistinct : response.HasDistinctNames := by decide
  have horder : order.Perm response.headers.entries := by decide
  obtain ⟨hsend, hhandlers, -⟩ := send_unaltered
  have hpart := (hhandlers _ (.site {}) request tree).arrives "Content-Range" "bytes 0-1/5"
    (by decide +kernel)
  rw [show lowerCase "Content-Range" = "content-range" by decide] at hpart
  exact ⟨hdistinct, horder, (hsend response hdistinct).2.2.2 order horder, by decide, hpart⟩

end Waymark
