import Waymark.Config.Load
import Waymark.Report

/-!
# Waymark.Config.Diagnosis

Reports on configurations that cannot be loaded.
-/

namespace Waymark.Config

/-- What to say about the place of an error. -/
def LoadError.note : LoadError → String
  | parsing (.malformed (.lexical _)) => "bad token"
  | parsing (.malformed (.unexpectedToken ..)) => "unexpected here"
  | parsing (.malformed (.unbalancedClose ..)) => "no block to close"
  | parsing (.malformed (.unclosedBlock ..)) => "opened here"
  | parsing (.invalid _) => "not allowed here"
  | resolving _ => "in this statement"

/-- The span to show for one in a source of some length: it stays within the
source, and has at least one byte if the source has any. -/
def shownSpan (length : Nat) (span : Span) : Span :=
  let start := min span.start length
  let stop := max (min span.stop length) start
  if start < stop then ⟨start, stop⟩
  else if stop < length then ⟨start, stop + 1⟩
  else ⟨start - 1, length⟩

/-- The report on an error of a configuration, which is called `name`. -/
def LoadError.report (error : LoadError) (source name : String) : String :=
  match error.span? with
  | none => s!"Error: {error.message}\n"
  | some span =>
    let report : Report :=
      { title := s!"{name}: {error.message}"
        span := shownSpan source.utf8ByteSize span
        note := error.note }
    report.draw source

end Waymark.Config
