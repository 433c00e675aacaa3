import Waymark.Location
import Waymark.Text.Quoted

/-!
# Waymark.Registry

The handlers that a configuration may name: for each name the arguments it
expects and the function that makes the handler of a location.

The type of handlers is a parameter, since a registry only stores and applies
their makers.
-/

namespace Waymark

/-- A registered handler. -/
structure HandlerSpec (H : Type) where
  /-- The name that locations use. -/
  name : String
  /-- The keywords that a location must give, each once, ascending. -/
  expected : List String
  /-- The handler for the path and the arguments of a location. -/
  make : String → Arguments → H

/-- The specification as one line of text. -/
def HandlerSpec.describe {H : Type} (spec : HandlerSpec H) : String :=
  let expected := ", ".intercalate (spec.expected.map Text.quoteText)
  "HandlerSpec \x7b name: " ++ Text.quoteText spec.name ++ ", expected_args: \x7b" ++ expected
    ++ "\x7d \x7d"

/-- Handlers by name. -/
abbrev Registry (H : Type) := Table (HandlerSpec H)

namespace Registry

variable {H : Type}

/-- Register a handler; an earlier one of the same name is forgotten. -/
def register (registry : Registry H) (name : String) (expected : List String)
    (make : String → Arguments → H) : Registry H :=
  registry.insert name ⟨name, sortedDistinct expected, make⟩

/-- The registered names, ascending. -/
def names (registry : Registry H) : List String := registry.keys

/-- The keywords that the handler of a name expects. -/
def expectedOf? (registry : Registry H) (name : String) : Option (List String) :=
  (registry.get? name).map (·.expected)

/-- The maker of the handler of a name. -/
def maker? (registry : Registry H) (name : String) : Option (String → Arguments → H) :=
  (registry.get? name).map (·.make)

/-- The handler of a location. -/
def create? (registry : Registry H) (location : Location) : Option H :=
  (registry.maker? location.handler).map fun make => make location.path location.args

end Registry

end Waymark
