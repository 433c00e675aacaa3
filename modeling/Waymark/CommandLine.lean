import Waymark.Config.Diagnosis
import Waymark.Dispatcher
import Waymark.Http.Connection
import Waymark.Pattern.Compile
import Waymark.RouteTable

/-!
# Waymark.CommandLine

What the program does for its arguments.

Design points:

* a command concerns at most one configuration file; its text, or why it cannot
  be read, and the network are all that the outcome depends on;
* a server is ready to start when its configuration loads and its patterns
  compile. Where the network can be reached it then serves until it is
  interrupted, which is no failure; elsewhere it fails to bind its port.
-/

namespace Waymark

open Config

/-- What the program is asked to do. -/
inductive Command where
  /-- Start the server of a configuration file. -/
  | run (config : String)
  /-- Say whether a configuration file is valid. -/
  | validate (config : String)
  /-- Print the route table of a configuration file. -/
  | routes (config : String)
  /-- Print the version. -/
  | version
  /-- Print the name and the version of the program. -/
  | about
  deriving DecidableEq, Repr

/-- What the program prints, and how it ends. -/
structure Outcome where
  /-- The exit code. -/
  exit : Nat
  /-- The text on the standard output. -/
  output : String := ""
  /-- The text on the standard error. -/
  errors : String := ""
  deriving DecidableEq, Repr

/-- The version of the program. -/
def programVersion : String := "0.1.0"

namespace Command

/-! ### Arguments -/

/-- The configuration file of commands that do not name one. -/
def defaultConfig : String := "conf/locus.conf"

/-- The arguments that are no options, unless one is an option that is not known.
After two hyphens no argument is an option. -/
def positional? : List String → Option (List String)
  | [] => some []
  | "--" :: args => some args
  | arg :: args =>
    if arg = "-v" ∨ arg = "--verbose" then positional? args
    else if arg.startsWith "-" && arg ≠ "-" then none
    else (positional? args).map (arg :: ·)

/-- Whether the options before the command ask for the version. -/
def asksVersion : List String → Bool
  | [] => false
  | arg :: args =>
    arg = "-V" || arg = "--version" || (arg = "-v" || arg = "--verbose") && asksVersion args

/-- The command that arguments ask for. -/
def ofArgs? (args : List String) : Option Command :=
  if asksVersion args then some about
  else
    match positional? args with
    | some ["run"] => some (run defaultConfig)
    | some ["run", config] => some (run config)
    | some ["validate"] => some (validate defaultConfig)
    | some ["validate", config] => some (validate config)
    | some ["routes"] => some (routes defaultConfig)
    | some ["routes", config] => some (routes config)
    | some ["version"] => some version
    | _ => none

/-- The configuration file that a command concerns. -/
def config? : Command → Option String
  | run config | validate config | routes config => some config
  | version | about => none

/-! ### Outcomes -/

/-- The name of a file in reports. -/
def shownName (path : String) : String := (Path.fileName? path).getD path

/-- The server of a configuration file with some text, or the outcome of a
program that cannot go on. -/
def serverOf (config : String) (text : Except FileError String) : Except Outcome ServerConfig :=
  match text with
  | .error e =>
    .error { exit := 1, errors := s!"❌ Failed to read '{config}': {e.message}\n" }
  | .ok source =>
    match load fullRegistry source with
    | .ok server => .ok server
    | .error e => .error { exit := 1, errors := e.report source (shownName config) }

/-- A line of a cause, with its number before its first line. -/
def numberedCause (number : Nat) (cause : String) : String :=
  s!"    {number}: " ++ "\n       ".intercalate (cause.splitOn "\n")

/-- The outcome when a pattern cannot be compiled. -/
def patternOutcome (fault : PatternFault Pattern.PatternError) : Outcome :=
  let cause := fault.cause.message
  { exit := 1
    errors :=
      "Error: Failed to build route table\n\nCaused by:\n" ++
        numberedCause 0 s!"Invalid location pattern '{fault.pattern}': {cause}" ++ "\n" ++
        numberedCause 1 cause ++ "\n" }

/-- What listening on a port leads to: connections are served until the program is
interrupted. -/
def listen (network : Http.Network) (port : Nat) : Outcome :=
  match network with
  | .reachable => { exit := 0 }
  | .unreachable =>
    { exit := 1
      errors :=
        s!"Error: Server error: Failed to bind 0.0.0.0:{port}: " ++
          Http.unreachableMessage ++ "\n" }

/-- What starting a server leads to. -/
def start (network : Http.Network) (server : ServerConfig) : Outcome :=
  match Router.build Pattern.compile server.locations with
  | .error fault => patternOutcome fault
  | .ok _ => listen network server.port

/-- What to print about a valid configuration. -/
def validMessage (config : String) (server : ServerConfig) : String :=
  s!"✅ Configuration '{config}' is valid " ++
    s!"({server.locations.length} location(s) on port {server.port})\n"

/-- The outcome of a command; `text` is the text of the configuration file that it
concerns. -/
def perform (network : Http.Network) (text : Except FileError String) : Command → Outcome
  | run config =>
    match serverOf config text with
    | .ok server => start network server
    | .error outcome => outcome
  | validate config =>
    match serverOf config text with
    | .ok server => { exit := 0, output := validMessage config server }
    | .error outcome => outcome
  | routes config =>
    match serverOf config text with
    | .ok server => { exit := 0, output := RouteTable.print server ++ "\n" }
    | .error outcome => outcome
  | version => { exit := 0, output := s!"Locus v{programVersion}\n" }
  | about => { exit := 0, output := s!"locus {programVersion}\n" }

/-- How to use the program. -/
def usage : Outcome :=
  { exit := 2, errors := "Usage: locus [-v] <run|validate|routes|version> [CONFIG]\n" }

/-- The outcome of the program for its arguments, when the text of files is given
by `readText`. Without a listener the network cannot be reached. -/
def outcome (readText : String → Except FileError String) (args : List String)
    (network : Http.Network := .unreachable) : Outcome :=
  match ofArgs? args with
  | none => usage
  | some command =>
    command.perform network ((command.config?.map readText).getD (.error .notFound))

end Command

end Waymark
