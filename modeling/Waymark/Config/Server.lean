import Waymark.Config.Quoting
import Waymark.Config.Tree
import Waymark.Registry

/-!
# Waymark.Config.Server

From a statement tree to the port and the locations that it configures.

Ports and locations are looked for directly in the tree and in every `server`
block of every `http` block.

Design points:

* nothing here relies on the rules of `Waymark.Config.Rules`: every tree has an
  answer;
* locations are taken in source order, and the first one that is faulty, or whose
  path an earlier one has, is the error of the whole table;
* the table is kept by path, so the order of the source is restored from the positions
  that the locations carry.
-/

namespace Waymark.Config

/-- Why a tree configures no server. -/
inductive ResolveError where
  /-- No port is given. -/
  | missingPort
  /-- A second port is given. -/
  | duplicatePort (span : Span)
  /-- What is given is no port number. -/
  | invalidPort (value : String) (span : Span)
  /-- A location has too few or too many words. -/
  | malformedLocation (span : Span)
  /-- The word before a location's path is no modifier. -/
  | unknownModifier (modifier : String) (span : Span)
  /-- A location's path is the empty text. -/
  | emptyPath (span : Span)
  /-- An earlier location has the same path. -/
  | duplicateLocation (path : String) (span : Span)
  /-- A location names a handler that is not registered. -/
  | unknownHandler (handler : String) (span : Span)
  /-- An argument is not a keyword and a value. -/
  | malformedArgument (span : Span)
  /-- A keyword is given twice. -/
  | duplicateArgument (keyword : String) (span : Span)
  /-- The handler does not know the keyword. -/
  | unexpectedArgument (handler keyword : String) (span : Span)
  /-- Keywords that the handler expects are not given. -/
  | missingArguments (handler : String) (missing : List String) (span : Span)
  deriving DecidableEq, Repr

namespace ResolveError

/-- The place of the offending statement. -/
def span? : ResolveError → Option Span
  | missingPort => none
  | duplicatePort span | invalidPort _ span | malformedLocation span
  | unknownModifier _ span | emptyPath span | duplicateLocation _ span
  | unknownHandler _ span | malformedArgument span | duplicateArgument _ span
  | unexpectedArgument _ _ span | missingArguments _ _ span => some span

/-- The error in words. -/
def message : ResolveError → String
  | missingPort => "No 'listen' or 'port' directive found"
  | duplicatePort _ => "The listen port is configured more than once"
  | invalidPort value _ =>
      s!"Invalid port '{value}': expected a number between 0 and 65535"
  | malformedLocation _ =>
      "'location' needs a path and a handler, with an optional modifier"
  | unknownModifier modifier _ => s!"Unknown location modifier '{modifier}'"
  | emptyPath _ => "Location path is empty"
  | duplicateLocation path _ => s!"Duplicate location '{path}'"
  | unknownHandler handler _ => s!"Handler '{handler}' is not registered"
  | malformedArgument _ => "Handler arguments must be a 'keyword value;' pair"
  | duplicateArgument keyword _ => s!"Argument '{keyword}' given more than once"
  | unexpectedArgument handler keyword _ =>
      s!"Handler '{handler}' does not take argument '{keyword}'"
  | missingArguments handler missing _ =>
      let names := ", ".intercalate missing
      s!"Handler '{handler}' is missing argument(s): {names}"

end ResolveError

/-- A server as configured. -/
structure ServerConfig where
  /-- The port to listen on. -/
  port : Nat
  /-- The locations in source order. -/
  locations : List Location
  deriving Inhabited

/-- The blocks that may hold ports and locations, outermost first. -/
def serverBlocks (root : Block) : List Block :=
  root :: (root.blocks "http").flatMap (·.blocks "server")

/-! ### The port -/

/-- The number that a sequence of decimal digits denotes. -/
def decimalValue (digits : List Char) : Nat :=
  digits.foldl (fun n c => 10 * n + (c.toNat - '0'.toNat)) 0

/-- Read a port number: decimal digits only, and at most 65535. -/
def readPort? (value : String) : Option Nat :=
  let digits := value.toList
  if digits ≠ [] ∧ digits.all Char.isDigit ∧ decimalValue digits ≤ 65535 then
    some (decimalValue digits)
  else none

/-- The statements that give a port: `listen` in a server, `port` elsewhere. -/
def portStatements (root : Block) : List Statement :=
  (serverBlocks root).flatMap fun block =>
    block.find (if block.context = "server" then "listen" else "port")

/-- The port of a tree. -/
def findPort (root : Block) : Except ResolveError Nat :=
  match portStatements root with
  | [] => .error .missingPort
  | _ :: second :: _ => .error (.duplicatePort second.span)
  | [statement] =>
    let value := " ".intercalate statement.args
    match statement.args with
    | [word] =>
      match readPort? word with
      | some port => .ok port
      | none => .error (.invalidPort value statement.span)
    | _ => .error (.invalidPort value statement.span)

/-- The port of a tree, or -1 when it has none. -/
def findPortOrSentinel (root : Block) : Int :=
  match findPort root with
  | .ok port => port
  | .error _ => -1

/-! ### Locations -/

/-- A path without the slashes at its end; a path of slashes becomes `/`.
Patterns stay as they are. -/
def normalizePath (kind : MatchKind) (path : String) : String :=
  if kind.isPattern then path
  else
    let kept := (path.toList.reverse.dropWhile (· = '/')).reverse
    if kept = [] ∧ path ≠ "" then "/" else String.ofList kept

/-- The statements in the body of a statement. -/
def Statement.body (s : Statement) : List Statement :=
  match s.block? with
  | some b => b.statements
  | none => []

/-- Read the arguments of a handler from the body of its location, after some
that have been read. -/
def readArguments (handler : String) (expected : List String) (args : Arguments) :
    List Statement → Except ResolveError Arguments
  | [] => .ok args
  | s :: rest =>
    match s.isBlock, s.words with
    | false, [keyword, value] =>
      if !expected.contains keyword then
        .error (.unexpectedArgument handler keyword s.span)
      else if args.contains keyword then .error (.duplicateArgument keyword s.span)
      else readArguments handler expected (args.insert keyword (unquote value)) rest
    | _, _ => .error (.malformedArgument s.span)

/-- The kind, the path and the handler that the words of a location statement
give. -/
def locationHead (s : Statement) : Except ResolveError (MatchKind × String × String) :=
  match s.args with
  | [path, handler] => .ok (.standardPrefix, path, handler)
  | [modifier, path, handler] =>
    match MatchKind.ofModifier? modifier with
    | some kind => .ok (kind, path, handler)
    | none => .error (.unknownModifier modifier s.span)
  | _ => .error (.malformedLocation s.span)

variable {H : Type}

/-- The location of one statement, given its position among the locations. -/
def resolveLocation (registry : Registry H) (order : Nat) (s : Statement) :
    Except ResolveError Location := do
  let (kind, word, handler) ← locationHead s
  let path := unquote word
  if path = "" then throw (.emptyPath s.span)
  match registry.expectedOf? handler with
  | none => throw (.unknownHandler handler s.span)
  | some expected =>
    let args ← readArguments handler expected {} s.body
    let missing := expected.filter (!args.contains ·)
    if missing ≠ [] then throw (.missingArguments handler missing s.span)
    return ⟨normalizePath kind path, kind, handler, args, order⟩

/-- Put the locations of some statements into a table by path, which holds those of the
statements before them. -/
def tabulate (registry : Registry H) (order : Nat) (table : Table Location) :
    List Statement → Except ResolveError (Table Location)
  | [] => .ok table
  | s :: rest => do
    let location ← resolveLocation registry order s
    if table.contains location.path then
      throw (.duplicateLocation location.path s.span)
    tabulate registry (order + 1) (table.insert location.path location) rest

/-- The location statements of a tree, in source order. -/
def locationStatements (root : Block) : List Statement :=
  ((serverBlocks root).flatMap (·.find "location")).mergeSort
    fun s t => s.span.start ≤ t.span.start

/-- The locations of a tree by path. -/
def locationTable (registry : Registry H) (root : Block) :
    Except ResolveError (Table Location) :=
  tabulate registry 0 {} (locationStatements root)

/-- The locations of a tree, by ascending path. -/
def findLocations (registry : Registry H) (root : Block) :
    Except ResolveError (List Location) := do
  let table ← locationTable registry root
  return table.values

/-- Some locations by their positions in the configuration. -/
def inOrder (locations : List Location) : List Location :=
  locations.mergeSort fun a b => a.order ≤ b.order

/-- The server that a tree configures. -/
def resolve (registry : Registry H) (root : Block) : Except ResolveError ServerConfig := do
  let port ← findPort root
  let locations ← findLocations registry root
  return ⟨port, inOrder locations⟩

end Waymark.Config
