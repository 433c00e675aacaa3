import Waymark.Table

/-!
# Waymark.Location

Locations: the entries of a route table, each a path bound to a handler.
-/

namespace Waymark

/-- How a location's path is compared with the path of a request. -/
inductive MatchKind where
  /-- The request path is the location's path. -/
  | exact
  /-- The request path starts with the location's path; this outranks patterns. -/
  | preferredPrefix
  /-- The location's path is a pattern that the request path contains a match of. -/
  | pattern
  /-- The same without regard to case. -/
  | patternIgnoringCase
  /-- The request path starts with the location's path. -/
  | standardPrefix
  deriving DecidableEq, Repr, Inhabited

namespace MatchKind

/-- The kind that a modifier before the path asks for. -/
def ofModifier? : String → Option MatchKind
  | "=" => some exact
  | "^~" => some preferredPrefix
  | "~" => some pattern
  | "~*" => some patternIgnoringCase
  | _ => none

/-- The modifier of a kind; a standard prefix has none. -/
def modifier? : MatchKind → Option String
  | exact => some "="
  | preferredPrefix => some "^~"
  | pattern => some "~"
  | patternIgnoringCase => some "~*"
  | standardPrefix => none

/-- The rank of a kind: of two locations that match, the one of higher rank is
chosen. -/
def priority : MatchKind → Nat
  | exact => 3
  | preferredPrefix => 2
  | pattern | patternIgnoringCase => 1
  | standardPrefix => 0

/-- Whether the location's path is a pattern. -/
def isPattern : MatchKind → Bool
  | pattern | patternIgnoringCase => true
  | _ => false

/-- The name of a kind in listings. -/
def name : MatchKind → String
  | exact => "exact"
  | preferredPrefix => "preferred_prefix"
  | pattern => "regex"
  | patternIgnoringCase => "regex_case_insensitive"
  | standardPrefix => "standard_prefix"

/-- A modifier is read as the kind that it is written for. -/
theorem ofModifier?_eq_some_iff {text : String} {kind : MatchKind} :
    ofModifier? text = some kind ↔ kind.modifier? = some text := by
  unfold ofModifier? modifier?
  split <;> cases kind <;> simp_all [eq_comm]

end MatchKind

/-- The arguments of a handler, by keyword. -/
abbrev Arguments := Table String

/-- A path bound to a handler. -/
structure Location where
  /-- The path, or the pattern that request paths are searched for. -/
  path : String
  /-- How the path is compared. -/
  kind : MatchKind
  /-- The name under which the handler is registered. -/
  handler : String
  /-- The handler's arguments. -/
  args : Arguments
  /-- The position in the configuration; of equal matches the first counts. -/
  order : Nat
  deriving Inhabited

/-- A location in one line. -/
def Location.describe (l : Location) : String :=
  match l.kind.modifier? with
  | some modifier => s!"{modifier} {l.path} -> {l.handler}"
  | none => s!"{l.path} -> {l.handler}"

end Waymark
