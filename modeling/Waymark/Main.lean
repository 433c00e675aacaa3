import Waymark.CommandLine

/-!
# Waymark.Main

The program: it reads the configuration file that its arguments name, and prints
what `Waymark.Command.perform` says. It has no listener, so to it the network
cannot be reached.
-/

namespace Waymark

/-- The error of a file as this library knows it. -/
def fileErrorOf : IO.Error → FileError
  | .noFileOrDirectory .. => .notFound
  | .inappropriateType .. => .notADirectory
  | .resourceExhausted .. => .nameTooLong
  | _ => .isADirectory

/-- The text of a file. -/
def readFileText (path : String) : IO (Except FileError String) := do
  try
    let bytes ← IO.FS.readBinFile path
    return match Text.decode? bytes.toList with
      | some text => .ok text
      | none => .error .notText
  catch e => return .error (fileErrorOf e)

end Waymark

/-- The program. -/
def main (args : List String) : IO UInt32 := do
  let outcome ← match Waymark.Command.ofArgs? args with
    | none => pure Waymark.Command.usage
    | some command => do
      let text ← match command.config? with
        | some path => Waymark.readFileText path
        | none => pure (.error .notFound)
      pure (command.perform .unreachable text)
  IO.print outcome.output
  IO.eprint outcome.errors
  return UInt32.ofNat outcome.exit
