import Waymark.Handler
import Waymark.Markup.Html
import Waymark.Text.Space

/-!
# Waymark.DocumentStore

Markdown documents below a directory: shown as pages, and created, replaced and
removed by requests.

Design points:

* reading, creating and replacing concern files with the extension `md` alone;
  removing concerns any file;
* creating makes the directories that are missing; it does not touch a file that
  is there;
* a write that breaks off is answered as a failure of the server, and what it has
  written stays.
-/

namespace Waymark

open Http

/-- A directory of documents. -/
structure DocumentStore where
  /-- The path of the location, which is taken off request paths. -/
  location : String
  /-- The directory. -/
  dataPath : String
  /-- The address of the style sheet of all pages. -/
  stylesheet : String

/-- The media type that the body of a document has to have. -/
def documentMediaType : String := "text/markdown"

/-- Whether a file may be a document: its extension is `md`. -/
def isDocumentPath (path : String) : Bool := Path.extension? path = some "md"

/-- Whether a request says that its body is a document. Parameters after the
media type do not count, nor does case. -/
def hasDocumentBody (request : Request) : Bool :=
  match (request.headers.first? "content-type").bind valueText? with
  | none => false
  | some text =>
    lowerCase (String.ofList (Text.trim (text.toList.takeWhile (· ≠ ';')))) = documentMediaType

namespace DocumentStore

/-- The path of the file that a request path stands for. -/
def resolve (store : DocumentStore) (request : String) : Option String :=
  Path.below store.location store.dataPath request

/-- A text that can stand between double quotes in a page. -/
def escapeQuotes (text : String) : String :=
  String.join (text.toList.map fun c => if c = '"' then "&quot;" else c.toString)

/-- The page that shows a document. -/
def page (store : DocumentStore) (document : String) : String :=
  "<!DOCTYPE html>\n<html>\n<head>\n<meta charset=\"utf-8\">\n<link rel=\"stylesheet\" href=\"" ++
    escapeQuotes store.stylesheet ++ "\">\n</head>\n<body>\n" ++ Markup.render document ++
    "</body>\n</html>\n"

/-- Show a document. -/
def get (store : DocumentStore) (path : String) (tree : FileTree) : Response :=
  if !isDocumentPath path then
    .plain 400 s!"Could not retrieve '{path}', not a markdown file"
  else
    match tree.readText path with
    | .ok document =>
      (Response.withBody 200 (Text.encode (store.page document))).header "Content-Type" "text/html"
    | .error .notFound => .notFound
    | .error _ => .plain 500 s!"Failed to read file {path}"

/-- Create a document. -/
def create (path : String) (body : Bytes) (tree : FileTree) : Response × FileTree :=
  if !isDocumentPath path then
    (.plain 400 s!"Failed to create '{path}', file name must end with '.md'", tree)
  else
    match tree.makeParents path with
    | (tree, some _) => (.internalError, tree)
    | (tree, none) =>
      match tree.create path body with
      | .ok tree => (.ofStatus 204, tree)
      | .error ⟨.alreadyExists, tree⟩ =>
        (.plain 400 s!"Failed to create '{path}', file already exists", tree)
      | .error ⟨_, tree⟩ => (.internalError, tree)

/-- Replace a document. -/
def update (path : String) (body : Bytes) (tree : FileTree) : Response × FileTree :=
  if !isDocumentPath path then
    (.plain 400 s!"Failed to update '{path}', not a markdown file", tree)
  else if !tree.isFile path then (.notFound, tree)
  else
    match tree.write path body with
    | .ok tree => (.ofStatus 204, tree)
    | .error ⟨_, tree⟩ => (.internalError, tree)

/-- Remove a file. -/
def delete (path : String) (tree : FileTree) : Response × FileTree :=
  match tree.stat path with
  | .error _ => (.notFound, tree)
  | .ok .directory => (.plain 400 s!"Cannot delete '{path}', not a markdown file", tree)
  | .ok (.file _) =>
    match tree.remove path with
    | .ok tree => (.ofStatus 204, tree)
    | .error _ => (.internalError, tree)

/-- The handler of a store. -/
def handler (store : DocumentStore) : Handler := fun request tree =>
  match store.resolve request.uri.path with
  | none => (.notFound, tree)
  | some path =>
    match request.method, hasDocumentBody request with
    | "GET", _ => (store.get path tree, tree)
    | "POST", true => create path request.body tree
    | "PUT", true => update path request.body tree
    | "DELETE", _ => delete path tree
    | _, _ => (.badRequest, tree)

end DocumentStore

end Waymark
