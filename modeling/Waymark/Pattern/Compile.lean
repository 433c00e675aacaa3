import Waymark.Pattern.Reader
import Waymark.Pattern.Interpret
import Waymark.Pattern.Size
import Waymark.Router

/-!
# Waymark.Pattern.Compile

From the text of a pattern to a test on texts, or to what is wrong with it.
-/

namespace Waymark.Pattern

/-- What can be wrong with a pattern. -/
inductive PatternError where
  /-- It cannot be read, or asks for what there is not. -/
  | malformed (report : String)
  /-- Written out, it is too large. -/
  | tooLarge
  deriving DecidableEq, Repr

/-- The error in words. -/
def PatternError.message : PatternError → String
  | malformed report => report
  | tooLarge => s!"Compiled regex exceeds size limit of {Term.maxCost} bytes."

/-- The term of a pattern. -/
def termOf (ignoreCase : Bool) (pattern : String) : Except PatternError Term := do
  let reported {α : Type} : Except Fault α → Except PatternError α :=
    Except.mapError fun fault => .malformed (fault.report pattern)
  let ast ← reported (read pattern)
  let (term, _) ← reported (interpret { ignoreCase } ast)
  if Term.maxCost < term.cost then .error .tooLarge else return term

/-- Compile a pattern: the test says whether a text contains a match. -/
def compile : PatternCompiler PatternError := fun ignoreCase pattern => do
  let term ← termOf ignoreCase pattern
  return fun text => term.isFoundIn text.toList

end Waymark.Pattern
