import Waymark.Config.Load
import Waymark.FileTree

/-!
# Waymark.Config.File

Configurations read from files.
-/

namespace Waymark.Config

/-- Why a file configures no server. -/
inductive FileLoadError where
  /-- The file cannot be read. -/
  | unreadable (path : String) (error : FileError)
  /-- Its text is no valid configuration. -/
  | rejected (error : LoadError)
  deriving DecidableEq, Repr

namespace FileLoadError

/-- The place to point at. -/
def span? : FileLoadError → Option Span
  | unreadable .. => none
  | rejected error => error.span?

/-- The error in words. -/
def message : FileLoadError → String
  | unreadable path error => s!"Failed to read {path}: {error.message}"
  | rejected error => error.message

end FileLoadError

/-- The text of a file. -/
def sourceOf (tree : FileTree) (path : String) : Except FileLoadError String :=
  (tree.readText path).mapError (.unreadable path)

/-- The statement tree of a file that keeps to the rules. -/
def parseAt (tree : FileTree) (path : String) : Except FileLoadError Block := do
  (parse (← sourceOf tree path)).mapError (.rejected ∘ .parsing)

/-- The server that a file configures. -/
def loadAt {H : Type} (registry : Registry H) (tree : FileTree) (path : String) :
    Except FileLoadError ServerConfig := do
  (load registry (← sourceOf tree path)).mapError .rejected

end Waymark.Config
