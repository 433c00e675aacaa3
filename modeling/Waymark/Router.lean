import Waymark.Location

/-!
# Waymark.Router

Choosing the location for a request path.

Of the locations that match, the one of highest priority is chosen, among those
the one with the longest match, and among those the first.

Design points:

* the pattern language is a parameter: `compile` turns a pattern into a test on
  request paths, or says why it cannot;
* patterns are compiled once, when the router is built, in the order in which the
  locations are given.
-/

namespace Waymark

/-- What a pattern language does: turn a pattern, taken with or without regard to
case, into a test. -/
abbrev PatternCompiler (ε : Type) := (ignoreCase : Bool) → (pattern : String) → Except ε (String → Bool)

/-- A location that is ready to be compared with request paths. -/
structure Route where
  /-- The location. -/
  location : Location
  /-- The test of its pattern; for other kinds it plays no part. -/
  test : String → Bool

/-- A pattern that cannot be compiled. -/
structure PatternFault (ε : Type) where
  /-- The pattern. -/
  pattern : String
  /-- What is wrong with it. -/
  cause : ε

namespace Route

/-- Make a location ready. -/
def ofLocation {ε : Type} (compile : PatternCompiler ε) (location : Location) :
    Except (PatternFault ε) Route :=
  if location.kind.isPattern then
    match compile (location.kind = .patternIgnoringCase) location.path with
    | .ok test => .ok ⟨location, test⟩
    | .error cause => .error ⟨location.path, cause⟩
  else .ok ⟨location, fun _ => false⟩

/-- The length of the match with a request path, in bytes. Zero means no match; a
pattern that matches counts as one byte. -/
def matchLength (route : Route) (path : String) : Nat :=
  match route.location.kind with
  | .exact => if path = route.location.path then path.utf8ByteSize else 0
  | .preferredPrefix | .standardPrefix =>
    if route.location.path.toList.isPrefixOf path.toList then route.location.path.utf8ByteSize
    else 0
  | .pattern | .patternIgnoringCase => if route.test path then 1 else 0

/-- The rank of a route for a request path: its priority and the length of its
match. -/
def score (route : Route) (path : String) : Nat × Nat :=
  (route.location.kind.priority, route.matchLength path)

end Route

/-- Whether the first rank is higher: by priority, then by length. -/
def outranks (a b : Nat × Nat) : Bool :=
  b.1 < a.1 || b.1 = a.1 && b.2 < a.2

/-- The routes of a server, by the order of their locations. -/
structure Router where
  /-- The routes. -/
  routes : List Route

namespace Router

/-- Build the router of some locations. -/
def build {ε : Type} (compile : PatternCompiler ε) (locations : List Location) :
    Except (PatternFault ε) Router := do
  let routes ← locations.mapM (Route.ofLocation compile)
  return ⟨routes.mergeSort fun a b => a.location.order ≤ b.location.order⟩

/-- The locations in order. -/
def locations (router : Router) : List Location := router.routes.map (·.location)

/-- The better of the best route so far and another one: the other if it matches
and outranks the best. -/
def better (path : String) (best : Option Route) (route : Route) : Option Route :=
  if route.matchLength path = 0 then best
  else
    match best with
    | none => some route
    | some champion =>
      if outranks (route.score path) (champion.score path) then some route else some champion

/-- The location for a request path. -/
def select (router : Router) (path : String) : Option Location :=
  (router.routes.foldl (better path) none).map (·.location)

end Router

end Waymark
