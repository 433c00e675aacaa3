import Waymark.DocumentStore
import Waymark.Router
import Waymark.StaticSite

/-!
# Waymark.Dispatcher

From a request to its response: the router chooses a location, the registry makes
its handler, and the handler answers.
-/

namespace Waymark

open Http

/-- The registry of all handlers: those that need no files, and those of sites
and document stores. -/
def fullRegistry : Registry Handler :=
  builtinRegistry
    |>.register "StaticHandler" ["root"] (fun path args =>
      StaticSite.handler { location := path, root := (args.get? "root").getD "" })
    |>.register "MarkdownHandler" ["data_path", "format_path"] (fun path args =>
      DocumentStore.handler
        ⟨path, (args.get? "data_path").getD "", (args.get? "format_path").getD ""⟩)

/-- Whatever is needed to answer requests. -/
structure Dispatcher where
  /-- The routes. -/
  router : Router
  /-- The handlers. -/
  registry : Registry Handler

namespace Dispatcher

/-- Answer a request that no location matches. -/
def fallback (dispatcher : Dispatcher) : Handler := fun request tree =>
  match dispatcher.registry.maker? errorHandlerName with
  | some make => make request.uri.path {} request tree
  | none => (.notFound, tree)

/-- Answer a request. -/
def dispatch (dispatcher : Dispatcher) : Handler := fun request tree =>
  match dispatcher.router.select request.uri.path with
  | none => dispatcher.fallback request tree
  | some location =>
    match dispatcher.registry.create? location with
    | some handler => handler request tree
    | none => (.internalError, tree)

end Dispatcher

end Waymark
