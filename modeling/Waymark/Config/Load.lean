import Waymark.Config.Tree.Reader
import Waymark.Config.Server
import Waymark.Config.Rules

/-!
# Waymark.Config.Load

From the text of a configuration file to the server that it configures: tree,
rules, then port and locations.
-/

namespace Waymark.Config

/-- Why a text is no valid configuration. -/
inductive ParseError where
  /-- It has no statement tree. -/
  | malformed (error : SyntaxError)
  /-- A statement breaks the rules of its context. -/
  | invalid (error : SchemaError)
  deriving DecidableEq, Repr

namespace ParseError

/-- The place to point at. -/
def span? : ParseError → Option Span
  | malformed error => some error.span
  | invalid error => error.span?

/-- The error in words. -/
def message : ParseError → String
  | malformed error => error.message
  | invalid error => s!"Invalid configuration: {error.message}"

end ParseError

/-- Why a text configures no server. -/
inductive LoadError where
  /-- It is no valid configuration. -/
  | parsing (error : ParseError)
  /-- Its port or a location is faulty. -/
  | resolving (error : ResolveError)
  deriving DecidableEq, Repr

namespace LoadError

/-- The place to point at. -/
def span? : LoadError → Option Span
  | parsing error => error.span?
  | resolving error => error.span?

/-- The error in words. -/
def message : LoadError → String
  | parsing error => error.message
  | resolving error => error.message

end LoadError

/-- The statement tree of a text that keeps to the rules. -/
def parse (source : String) : Except ParseError Block := do
  let tree ← (parseTree source).mapError .malformed
  (validate tree mainContext).mapError .invalid
  return tree

/-- The server that a text configures. -/
def load {H : Type} (registry : Registry H) (source : String) :
    Except LoadError ServerConfig := do
  let tree ← (parse source).mapError .parsing
  (resolve registry tree).mapError .resolving

end Waymark.Config
