import Waymark.CharSet

/-!
# Waymark.Pattern.Term

The core language of patterns, and what it matches.

Design points:

* a term leads from some positions of a text to others: `Term.advance` maps the
  set of positions where a match may start to the set where it may end;
* a set of positions is a list of truth values, one for each gap between
  characters, both ends included;
* repetition goes on until the set does not change any more, so every match is
  found in time that grows with the text and the term alone.
-/

namespace Waymark.Pattern

/-! ### Conditions on a position -/

/-- How the characters at a position relate to words. -/
inductive WordEdge where
  /-- A word starts or ends here. -/
  | boundary
  /-- No word starts or ends here. -/
  | noBoundary
  /-- A word starts here. -/
  | start
  /-- A word ends here. -/
  | stop
  /-- No word character stands before. -/
  | startHalf
  /-- No word character stands after. -/
  | stopHalf
  deriving DecidableEq, Repr

/-- A condition on a position. -/
inductive Look where
  /-- The text starts here. -/
  | textStart
  /-- The text ends here. -/
  | textEnd
  /-- A line starts here; with `crlf`, carriage returns end lines too. -/
  | lineStart (crlf : Bool)
  /-- A line ends here. -/
  | lineEnd (crlf : Bool)
  /-- A condition on words, which consist of the characters of a set. -/
  | word (edge : WordEdge) (chars : CharSet)
  deriving Repr

/-- Whether a condition holds between two characters, which are missing at the
ends of the text. -/
def Look.holds (before? after? : Option Char) : Look → Bool
  | textStart => before?.isNone
  | textEnd => after?.isNone
  | lineStart false => before?.all (· = '\n')
  | lineStart true =>
    before?.all fun c => c = '\n' || c = '\r' && after? ≠ some '\n'
  | lineEnd false => after?.all (· = '\n')
  | lineEnd true =>
    after?.all fun c => c = '\r' || c = '\n' && before? ≠ some '\r'
  | word edge chars =>
    let before := before?.any chars.contains
    let after := after?.any chars.contains
    match edge with
    | .boundary => before != after
    | .noBoundary => before == after
    | .start => !before && after
    | .stop => before && !after
    | .startHalf => !before
    | .stopHalf => !after

/-! ### Terms -/

/-- A pattern of the core language. -/
inductive Term where
  /-- Matches nothing, everywhere. -/
  | empty
  /-- Matches one character of a set. -/
  | chars (set : CharSet)
  /-- Matches nothing where a condition holds. -/
  | look (condition : Look)
  /-- Matches one term and then another. -/
  | seq (first second : Term)
  /-- Matches either of two terms. -/
  | alt (first second : Term)
  /-- Matches a term several times; without `max?` there is no greatest number. -/
  | iterate (min : Nat) (max? : Option Nat) (body : Term)
  /-- Matches what its body matches, and marks it. -/
  | group (body : Term)
  deriving Inhabited, Repr

/-- The characters on both sides of each position. -/
def gapsFrom (before? : Option Char) : List Char → List (Option Char × Option Char)
  | [] => [(before?, none)]
  | c :: cs => (before?, some c) :: gapsFrom (some c) cs

/-- Apply a function some times, or until it changes nothing. -/
def settle (f : List Bool → List Bool) : (times : Nat) → List Bool → List Bool
  | 0, s => s
  | times + 1, s =>
    let next := f s
    if next = s then s else settle f times next

/-- The positions of either set. -/
def unite (s t : List Bool) : List Bool := List.zipWith (· || ·) s t

namespace Term

/-- The positions where a match that starts in a set may end. -/
def advance (text : List Char) : Term → List Bool → List Bool
  | empty, s => s
  | chars set, s => false :: List.zipWith (fun c here => here && set.contains c) text s
  | look condition, s =>
    List.zipWith (fun gap here => here && condition.holds gap.1 gap.2) (gapsFrom none text) s
  | seq first second, s => second.advance text (first.advance text s)
  | alt first second, s => unite (first.advance text s) (second.advance text s)
  | iterate min max? body, s =>
    let most := match max? with
      | some max => max - min
      | none => text.length + 1
    settle (fun s => unite s (body.advance text s)) most (settle (body.advance text) min s)
  | group body, s => body.advance text s

/-- Whether a text contains a match. -/
def isFoundIn (t : Term) (text : List Char) : Bool :=
  (t.advance text (List.replicate (text.length + 1) true)).any id

end Term

end Waymark.Pattern
