import Waymark.Handler

/-!
# Waymark.Http.Connection

One request on a connection of its own: what the client adds to it on the way,
and what of the response comes back.

Design points:

* the connection serves one request and is closed, which both sides say in a
  header;
* a body that is broken never reaches the handler;
* whether there is a network at all is not for this library to decide, so it is
  an argument.
-/

namespace Waymark.Http

/-- Whether connections can be made. -/
inductive Network where
  /-- They can. -/
  | reachable
  /-- There is no way to the server. -/
  | unreachable
  deriving DecidableEq, Repr

/-- The error of a connection that cannot be made, as an operating system words
it. -/
def unreachableMessage : String := "Network is unreachable (os error 101)"

/-- How the end of a body is marked. -/
inductive Framing where
  /-- Its length is given in advance. -/
  | length
  /-- It comes in chunks. -/
  | chunked
  /-- It comes in chunks that are not well-formed. -/
  | broken
  deriving DecidableEq, Repr

/-- A request as a client sends it. -/
structure ClientRequest where
  /-- The method. -/
  method : String
  /-- The target. -/
  uri : String
  /-- The headers that the client sets. -/
  headers : List (Bytes × Bytes)
  /-- The body. -/
  body : Bytes
  /-- How its end is marked. -/
  framing : Framing

/-- The headers that describe the body. -/
def framingHeaders (request : ClientRequest) : List (String × String) :=
  match request.framing with
  | .length =>
    if request.body.isEmpty then [] else [("content-length", toString request.body.length)]
  | .chunked | .broken => [("transfer-encoding", "chunked")]

/-- The request as it arrives. -/
def ClientRequest.arrive (request : ClientRequest) : Except RequestError Request :=
  let added := framingHeaders request ++ [("connection", "close")]
  Request.make request.method request.uri .http11
    (request.headers ++ added.map fun (name, value) => (Text.encode name, Text.encode value))
    request.body

/-- The words for a status code. -/
def reason : Nat → String
  | 200 => "OK"
  | 204 => "No Content"
  | 206 => "Partial Content"
  | 400 => "Bad Request"
  | 404 => "Not Found"
  | 500 => "Internal Server Error"
  | _ => "<none>"

/-- What a client gets back. -/
structure Reply where
  /-- The first line. -/
  statusLine : String
  /-- The header lines except the date, ascending. -/
  headerLines : List String
  /-- The body. -/
  body : Bytes

/-- The reply that carries a response. A length is given unless there can be no
body; the answer to `HEAD` has the length of the body that it leaves out. -/
def SentResponse.reply (method : String) (response : SentResponse) : Reply :=
  let isHead := method = "HEAD"
  let noLength := response.status = 204 || isHead && response.body.isEmpty
  let length := if noLength then [] else [("content-length", toString response.body.length)]
  let added := Table.ofList (response.headers.entries ++ ("connection", "close") :: length)
  { statusLine := s!"HTTP/1.1 {response.status} {reason response.status}"
    headerLines := added.entries.map fun (name, value) => s!"{name}: {value}"
    body := if isHead || response.status = 204 then [] else response.body }

/-- Send a request to a handler and wait for the reply. -/
def exchange (handler : Handler) (request : ClientRequest) (tree : FileTree) :
    Except RequestError (Reply × FileTree) := do
  let arrived ← request.arrive
  if request.framing = .broken then
    return (Response.badRequest.send.reply request.method, tree)
  else
    let (response, after) := handler arrived tree
    return (response.send.reply request.method, after)

end Waymark.Http
