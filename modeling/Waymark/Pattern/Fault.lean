/-!
# Waymark.Pattern.Fault

What can be wrong with a pattern, and how it is reported: the pattern with the
faulty stretch underlined, then the fault in words.
-/

namespace Waymark.Pattern

/-- The kinds of fault. -/
inductive FaultKind where
  /-- An escape that has no meaning in a class. -/
  | classEscapeInvalid
  /-- A range of a class that ends before it starts. -/
  | classRangeInvalid
  /-- A range of a class with an end that is no character. -/
  | classRangeLiteral
  /-- A class that is not closed. -/
  | classUnclosed
  /-- A number without digits. -/
  | decimalEmpty
  /-- A number that is too large. -/
  | decimalInvalid
  /-- A hexadecimal escape without digits. -/
  | escapeHexEmpty
  /-- A hexadecimal escape that names no character. -/
  | escapeHexInvalid
  /-- Something else than a hexadecimal digit. -/
  | escapeHexInvalidDigit
  /-- An escape at the end. -/
  | escapeUnexpectedEnd
  /-- An escape without meaning. -/
  | escapeUnrecognized
  /-- A negation of no flags. -/
  | flagDanglingNegation
  /-- A flag that is given twice. -/
  | flagDuplicate
  /-- A second negation of flags. -/
  | flagRepeatedNegation
  /-- The end among flags. -/
  | flagUnexpectedEnd
  /-- A flag without meaning. -/
  | flagUnrecognized
  /-- A group name that is given twice. -/
  | groupNameDuplicate
  /-- A group name without characters. -/
  | groupNameEmpty
  /-- A character that may not stand in a group name. -/
  | groupNameInvalid
  /-- The end in a group name. -/
  | groupNameUnexpectedEnd
  /-- A group that is not closed. -/
  | groupUnclosed
  /-- A parenthesis that closes no group. -/
  | groupUnopened
  /-- Parts that contain one another too deeply. -/
  | nestLimitExceeded (limit : Nat)
  /-- A repetition whose greatest number is less than its least. -/
  | repetitionCountInvalid
  /-- A repetition without its number. -/
  | repetitionCountDecimalEmpty
  /-- A repetition that is not closed. -/
  | repetitionCountUnclosed
  /-- A repetition of nothing. -/
  | repetitionMissing
  /-- A word boundary in braces that is not closed. -/
  | wordBoundaryUnclosed
  /-- A word boundary in braces without meaning. -/
  | wordBoundaryUnrecognized
  /-- The end after a word boundary and a brace. -/
  | wordBoundaryUnexpectedEnd
  /-- A property of characters without a name. -/
  | unicodeClassInvalid
  /-- A reference to a group. -/
  | unsupportedBackreference
  /-- A condition on the text around. -/
  | unsupportedLookAround
  /-- A part that needs the flag for Unicode. -/
  | unicodeNotAllowed
  /-- A part that matches bytes of no character. -/
  | invalidUtf8
  /-- A property of characters that is not known. -/
  | propertyNotFound
  /-- A value of a property that is not known. -/
  | propertyValueNotFound
  deriving DecidableEq, Repr

/-- A kind of fault in words. -/
def FaultKind.message : FaultKind → String
  | classEscapeInvalid => "invalid escape sequence found in character class"
  | classRangeInvalid => "invalid character class range, the start must be <= the end"
  | classRangeLiteral => "invalid range boundary, must be a literal"
  | classUnclosed => "unclosed character class"
  | decimalEmpty => "decimal literal empty"
  | decimalInvalid => "decimal literal invalid"
  | escapeHexEmpty => "hexadecimal literal empty"
  | escapeHexInvalid => "hexadecimal literal is not a Unicode scalar value"
  | escapeHexInvalidDigit => "invalid hexadecimal digit"
  | escapeUnexpectedEnd => "incomplete escape sequence, reached end of pattern prematurely"
  | escapeUnrecognized => "unrecognized escape sequence"
  | flagDanglingNegation => "dangling flag negation operator"
  | flagDuplicate => "duplicate flag"
  | flagRepeatedNegation => "flag negation operator repeated"
  | flagUnexpectedEnd => "expected flag but got end of regex"
  | flagUnrecognized => "unrecognized flag"
  | groupNameDuplicate => "duplicate capture group name"
  | groupNameEmpty => "empty capture group name"
  | groupNameInvalid => "invalid capture group character"
  | groupNameUnexpectedEnd => "unclosed capture group name"
  | groupUnclosed => "unclosed group"
  | groupUnopened => "unopened group"
  | nestLimitExceeded limit =>
    s!"exceed the maximum number of nested parentheses/brackets ({limit})"
  | repetitionCountInvalid => "invalid repetition count range, the start must be <= the end"
  | repetitionCountDecimalEmpty => "repetition quantifier expects a valid decimal"
  | repetitionCountUnclosed => "unclosed counted repetition"
  | repetitionMissing => "repetition operator missing expression"
  | wordBoundaryUnclosed =>
    "special word boundary assertion is either unclosed or contains an invalid character"
  | wordBoundaryUnrecognized =>
    "unrecognized special word boundary assertion, valid choices are: start, end, " ++
      "start-half or end-half"
  | wordBoundaryUnexpectedEnd =>
    "found either the beginning of a special word boundary or a bounded repetition on a \\b " ++
      "with an opening brace, but no closing brace"
  | unicodeClassInvalid => "invalid Unicode character class"
  | unsupportedBackreference => "backreferences are not supported"
  | unsupportedLookAround => "look-around, including look-ahead and look-behind, is not supported"
  | unicodeNotAllowed => "Unicode not allowed here"
  | invalidUtf8 => "pattern can match invalid UTF-8"
  | propertyNotFound => "Unicode property not found"
  | propertyValueNotFound => "Unicode property value not found"

/-- A stretch of a pattern. Its ends are given by the number of characters after
them, since that is what a reader has at hand. -/
structure Stretch where
  /-- The number of characters from the start of the stretch to the end of the
  pattern. -/
  start : Nat
  /-- The number of characters after the stretch. -/
  stop : Nat
  deriving DecidableEq, Repr, Inhabited

/-- A fault and where it is. -/
structure Fault where
  /-- What is wrong. -/
  kind : FaultKind
  /-- Where it is. -/
  place : Stretch
  /-- An earlier stretch that it contradicts. -/
  earlier? : Option Stretch := none
  deriving Repr

/-! ### Reports -/

/-- The lines of a text. A carriage return before a line end goes with it. -/
def linesOf (cs : List Char) : List (List Char) :=
  let rec go (line : List Char) : List Char → List (List Char)
    | [] => if line = [] then [] else [line.reverse]
    | '\n' :: rest =>
      (if line.head? = some '\r' then line.tail.reverse else line.reverse) :: go [] rest
    | c :: rest => go (c :: line) rest
  go [] cs

/-- A place in a pattern: its line and its column, both from 1. -/
structure Place where
  /-- The line. -/
  line : Nat
  /-- The column. -/
  column : Nat

/-- The place after some characters. -/
def placeAfter (cs : List Char) : Place :=
  ⟨1 + cs.count '\n', 1 + (cs.reverse.takeWhile (· ≠ '\n')).length⟩

/-- The start and the end of a stretch of a pattern. -/
def Stretch.places (pattern : List Char) (s : Stretch) : Place × Place :=
  (placeAfter (pattern.take (pattern.length - s.start)),
    placeAfter (pattern.take (pattern.length - s.stop)))

/-- Underline stretches of one line, from the left, when `column` columns are
written. -/
def underline (column : Nat) : List (Place × Place) → List Char
  | [] => []
  | (start, stop) :: rest =>
    let blanks := start.column - 1 - column
    let marks := max 1 (stop.column - start.column)
    List.replicate blanks ' ' ++ List.replicate marks '^' ++
      underline (column + blanks + marks) rest

/-- The pattern with its faulty stretches underlined. Lines are numbered when
there are several. -/
def annotate (pattern : List Char) (places : List (Place × Place)) : String :=
  let lines := linesOf pattern
  let count := lines.length + (if pattern.getLast? = some '\n' then 1 else 0)
  let width := if count ≤ 1 then 0 else (toString count).length
  let margin (number : Nat) : String :=
    if width = 0 then "    "
    else
      let digits := toString number
      String.ofList (List.replicate (width - digits.length) ' ') ++ digits ++ ": "
  let indent := if width = 0 then 4 else width + 2
  String.join <| lines.zipIdx.map fun (line, i) =>
    let here := places.filter fun (start, stop) => start.line = i + 1 && stop.line = i + 1
    let notes :=
      if here.isEmpty then ""
      else String.ofList (List.replicate indent ' ' ++ underline 0 here) ++ "\n"
    margin (i + 1) ++ String.ofList line ++ "\n" ++ notes

/-- The report on a fault of a pattern. -/
def Fault.report (fault : Fault) (pattern : String) : String :=
  let cs := pattern.toList
  let stretches := match fault.earlier? with
    | some earlier => [earlier, fault.place]
    | none => [fault.place]
  let places := stretches.map (·.places cs)
  let body := annotate cs places
  if cs.contains '\n' then
    let divider := String.ofList (List.replicate 79 '~') ++ "\n"
    let long := places.filter fun (start, stop) => start.line ≠ stop.line
    let notes := long.map fun (start, stop) =>
      s!"on line {start.line} (column {start.column}) through line {stop.line} " ++
        s!"(column {stop.column - 1})"
    "regex parse error:\n" ++ divider ++ body ++ divider ++
      (if long.isEmpty then "" else "\n".intercalate notes ++ "\n") ++
      "error: " ++ fault.kind.message
  else "regex parse error:\n" ++ body ++ "error: " ++ fault.kind.message

end Waymark.Pattern
