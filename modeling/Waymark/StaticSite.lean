import Waymark.Handler
import Waymark.Http.Date
import Waymark.Http.MediaType
import Waymark.Http.Range

/-!
# Waymark.StaticSite

Files below a directory, served as they are.

A request for a directory is answered with the first of its index files; a
request for a range of bytes with those bytes.
-/

namespace Waymark

open Http

/-- A directory whose files are served. -/
structure StaticSite where
  /-- The path of the location, which is taken off request paths. -/
  location : String := ""
  /-- The directory. -/
  root : String := "."
  /-- The names of index files, in order of preference. -/
  index : List String := ["index.html", "index.htm"]

/-- A file, or a part of it, to be sent. -/
structure ServedFile where
  /-- The bytes to send. -/
  content : Bytes
  /-- The media type of the file. -/
  mediaType : String
  /-- The path of the file. -/
  path : String
  /-- The status code: 206 for a part and 200 for the whole. -/
  status : Nat
  /-- Which part it is, and of how many bytes. -/
  contentRange? : Option String
  /-- The time of the file. -/
  lastModified : String

/-- What is sent of a file: some bytes of it, with the code, and a note which they
are. -/
def ServedFile.of (tree : FileTree) (path : String) (status : Nat)
    (contentRange? : Option String) (content : Bytes) : ServedFile :=
  { content, path, mediaType := mediaTypeOf path, status, contentRange?,
    lastModified := printDate (tree.modified path) }

/-- Read a number of bytes from an offset on. It is an error if the file ends before. -/
def readExact (bytes : Bytes) (offset count : Nat) : Except FileError Bytes :=
  let read := (bytes.drop offset).take count
  if read.length < count then .error .unexpectedEnd else .ok read

namespace StaticSite

/-- The path of the file that a request path stands for. -/
def resolve (site : StaticSite) (request : String) : Option String :=
  Path.below site.location site.root request

/-- The file to serve for a path: the path itself, or an index file in it. -/
def target? (site : StaticSite) (tree : FileTree) (path : String) : Option String :=
  match tree.stat path with
  | .error _ => none
  | .ok (.file _) => some path
  | .ok .directory => (site.index.map (Path.push path)).find? tree.isFile

/-- What to send for a request path and a `Range` header; none when there is no
such file. -/
def serve (site : StaticSite) (tree : FileTree) (request : String) (range? : Option String) :
    Except FileError (Option ServedFile) :=
  match (site.resolve request).bind (site.target? tree) with
  | none => .ok none
  | some path => do
    let bytes ← tree.read path
    match range?.bind (ByteRange.read? · bytes.length) with
    | none => return some (.of tree path 200 none (← readExact bytes 0 bytes.length))
    | some range =>
      let note := s!"bytes {range.first}-{range.last}/{bytes.length}"
      return some (.of tree path 206 (some note)
        (← readExact bytes range.first (range.last - range.first + 1)))

/-- The response that sends a file. -/
def respond (file : ServedFile) : Response :=
  let response := (Response.withBody file.status file.content).header "Content-Type" file.mediaType
    |>.header "Accept-Ranges" "bytes"
    |>.header "Last-Modified" file.lastModified
  match file.contentRange? with
  | some range => response.header "Content-Range" range
  | none => response

/-- The handler of a site. -/
def handler (site : StaticSite) : Handler := fun request tree =>
  let range? := (request.headers.first? "range").bind valueText?
  let response :=
    match site.serve tree request.uri.path range? with
    | .ok (some file) => respond file
    | .ok none => .notFound
    | .error _ => .internalError
  (response, tree)

end StaticSite

end Waymark
