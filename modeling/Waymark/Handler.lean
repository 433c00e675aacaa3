import Waymark.FileTree
import Waymark.Http.Response
import Waymark.Registry

/-!
# Waymark.Handler

What answers requests, and the handlers that need no files.

A handler is a function of the request and of the file system; the file system
that it leaves is part of its answer.
-/

namespace Waymark

open Http

/-- What answers a request. -/
abbrev Handler := Request → FileTree → Response × FileTree

namespace Handler

/-- The handler that leaves the files alone. -/
def pure (respond : Request → Response) : Handler := fun request tree => (respond request, tree)

/-- Show the request as it came. -/
def echo : Handler := .pure fun request => .plain 200 request.print

/-- Say that the server is alive. -/
def health : Handler := .pure fun request =>
  if request.method = "GET" then .plain 200 "Ok" else .plain 400 ""

/-- Answer after a while; the time is not part of the answer. -/
def sleep : Handler := .pure fun _ => .plain 200 "Sleep handler test"

/-- The methods for which a missing location is a missing document. -/
def documentMethods : List String := ["GET", "POST", "PUT", "DELETE"]

/-- Say that nothing is there. -/
def missing : Handler := .pure fun request =>
  if documentMethods.contains request.method then .notFound else .badRequest

end Handler

/-- The name of the handler for requests that no location matches. -/
def errorHandlerName : String := "ErrorHandler"

/-- The registry of the handlers that need no files and no arguments. -/
def builtinRegistry : Registry Handler :=
  ({} : Registry Handler)
    |>.register "EchoHandler" [] (fun _ _ => .echo)
    |>.register "HealthHandler" [] (fun _ _ => .health)
    |>.register "SleepHandler" [] (fun _ _ => .sleep)
    |>.register errorHandlerName [] (fun _ _ => .missing)

end Waymark
