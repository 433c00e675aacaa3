import Waymark.Pattern.ClassReader
import Waymark.Pattern.Property

/-!
# Waymark.Pattern.Reader

Reading patterns.

Design points:

* groups that are open are kept on a stack, innermost first, so one loop reads
  the whole pattern;
* faults are reported in the order in which they are met from the left; only a
  nesting that is too deep is looked for afterwards.
-/

namespace Waymark.Pattern

/-- Whether a character may stand in the name of a group. -/
def isNameChar (first : Bool) (c : Char) : Bool :=
  c = '_' || (propertyChars "alphabetic").contains c ||
    !first && (c = '.' || c = '[' || c = ']' ||
      (Unicode.Category.unionChars Unicode.Category.digits).contains c)

/-! ### State -/

/-- A group that waits for its closing parenthesis. -/
structure OpenGroup where
  /-- Where its opening parenthesis is. -/
  start : Stretch
  /-- The flags of the group. -/
  flags : FlagList
  /-- Whether it captures what it matches. -/
  captures : Bool
  /-- Whether blanks count around the group. -/
  outerIgnoreSpace : Bool
  /-- The branches around the group that are complete. -/
  outerBranches : List Ast
  /-- The parts before the group in its branch. -/
  outerParts : List Ast

/-- What has been read of a pattern. -/
structure Progress where
  /-- Whether blanks and comments do not count. -/
  ignoreSpace : Bool := false
  /-- The complete branches of the innermost group. -/
  branches : List Ast := []
  /-- The parts of its last branch. -/
  parts : List Ast := []
  /-- The open groups, innermost first. -/
  opened : List OpenGroup := []
  /-- The names of groups, and where they are. -/
  names : List (String × Stretch) := []

namespace Progress

/-- Add a part. -/
def add (p : Progress) (part : Ast) : Progress := { p with parts := p.parts ++ [part] }

/-- What has been read of the innermost group. -/
def contents (p : Progress) : Ast :=
  .ofBranches (p.branches ++ [.ofParts p.parts])

/-- Open a group. -/
def enter (p : Progress) (start : Stretch) (flags : FlagList) (captures : Bool) : Progress :=
  { p with
    ignoreSpace := (flags.lookup .ignoreSpace).getD p.ignoreSpace
    branches := []
    parts := []
    opened := ⟨start, flags, captures, p.ignoreSpace, p.branches, p.parts⟩ :: p.opened }

/-- Close the innermost group. -/
def leave? (p : Progress) : Option Progress :=
  match p.opened with
  | [] => none
  | g :: opened =>
    some { p with
      ignoreSpace := g.outerIgnoreSpace
      branches := g.outerBranches
      parts := g.outerParts ++ [.group g.flags g.captures p.contents]
      opened }

/-- Take the last part off, for a repetition. -/
def takeLast? (p : Progress) : Option (Ast × Progress) :=
  match p.parts.getLast? with
  | none | some .empty | some (.flags _) => none
  | some part => some (part, { p with parts := p.parts.dropLast })

end Progress

/-! ### Flags -/

/-- The flag of a letter. -/
def flagOf? : Char → Option Flag
  | 'i' => some .ignoreCase
  | 'm' => some .multiLine
  | 's' => some .dotAll
  | 'U' => some .swapGreed
  | 'u' => some .unicode
  | 'R' => some .crlf
  | 'x' => some .ignoreSpace
  | _ => none

/-- Flags as far as they have been read. -/
structure FlagDraft where
  /-- The flags, each with its place. -/
  flags : List (Flag × Bool × Stretch) := []
  /-- Where they are negated. -/
  negation? : Option Stretch := none
  /-- Whether the negation is the last thing read. -/
  dangling : Bool := false

/-- Read flags up to a colon or a closing parenthesis, which is left. -/
def readFlags (draft : FlagDraft) : List Char → Except Fault (FlagList × List Char)
  | [] => fault .flagUnexpectedEnd ⟨0, 0⟩
  | c :: cs =>
    let here := nextStretch (c :: cs)
    if c = ':' ∨ c = ')' then
      match draft.dangling, draft.negation? with
      | true, some place => fault .flagDanglingNegation place
      | _, _ => .ok (draft.flags.map fun (flag, on, _) => (flag, on), c :: cs)
    else if c = '-' then
      match draft.negation? with
      | some earlier => .error ⟨.flagRepeatedNegation, here, some earlier⟩
      | none => readFlags { draft with negation? := some here, dangling := true } cs
    else
      match flagOf? c with
      | none => fault .flagUnrecognized here
      | some flag =>
        match draft.flags.lookup flag with
        | some (_, earlier) => .error ⟨.flagDuplicate, here, some earlier⟩
        | none =>
          readFlags { draft with
            flags := draft.flags ++ [(flag, draft.negation?.isNone, here)], dangling := false } cs

/-! ### Groups -/

/-- Read the name of a group up to its closing angle bracket. `start` is where it
begins. -/
def readGroupName (start : List Char) (name : List Char) : List Char → Except Fault (String × List Char)
  | [] => fault .groupNameUnexpectedEnd ⟨0, 0⟩
  | c :: cs =>
    if c = '>' then
      if name = [] then fault .groupNameEmpty (stretch start start)
      else .ok (String.ofList name, cs)
    else if isNameChar name.isEmpty c then readGroupName start (name ++ [c]) cs
    else fault .groupNameInvalid (nextStretch (c :: cs))

/-- What follows a beginning, if a text begins with it. -/
def after? (beginning : String) (cs : List Char) : Option (List Char) :=
  if beginning.toList.isPrefixOf cs then some (cs.drop beginning.toList.length) else none

/-- Open a group with a name. -/
def openNamedGroup (p : Progress) (start : Stretch) (cs : List Char) :
    Except Fault (Progress × List Char) := do
  let (name, rest) ← readGroupName cs [] cs
  let place : Stretch := ⟨cs.length, rest.length + 1⟩
  match p.names.lookup name with
  | some earlier => .error ⟨.groupNameDuplicate, place, some earlier⟩
  | none => return ({ p.enter start [] true with names := p.names ++ [(name, place)] }, rest)

/-- Open a group, or change flags, at an opening parenthesis. -/
def openGroup (p : Progress) (cs : List Char) : Except Fault (Progress × List Char) := do
  let start := nextStretch cs
  let inside := skip p.ignoreSpace cs.tail
  match ["?=", "?!", "?<=", "?<!"].findSome? (after? · inside) with
  | some rest => fault .unsupportedLookAround (stretch cs rest)
  | none =>
    match (after? "?P<" inside).or (after? "?<" inside), after? "?" inside with
    | some rest, _ => openNamedGroup p start rest
    | none, none => return (p.enter start [] true, inside)
    | none, some [] => fault .groupUnclosed start
    | none, some rest =>
      let (flags, rest) ← readFlags {} rest
      if rest.head? = some ':' then return (p.enter start flags false, rest.tail)
      else if flags.isEmpty then fault .repetitionMissing (stretch inside inside)
      else
        let p := p.add (.flags flags)
        return ({ p with ignoreSpace := (flags.lookup .ignoreSpace).getD p.ignoreSpace }, rest.tail)

/-! ### Repetitions -/

/-- Skip the mark that makes a repetition short first; this changes nothing about
whether a text matches. -/
def skipLazy (cs : List Char) : List Char := if cs.head? = some '?' then cs.tail else cs

/-- Read a repetition in braces, whose opening brace `start` begins with: its
least and its greatest number. -/
def readCounts (ignoreSpace : Bool) (start : List Char) :
    Except Fault ((Nat × Option Nat) × List Char) := do
  let inside := skip ignoreSpace start.tail
  if inside = [] then fault .repetitionCountUnclosed (stretch start [])
  let least := readDecimal ignoreSpace inside
  let rest := match least with
    | .ok (_, rest) => rest
    | .error e => inside.drop (inside.length - e.place.stop) |> List.dropWhile Text.isSpace
  match rest with
  | [] => fault .repetitionCountUnclosed (stretch start [])
  | ',' :: more =>
    match skip ignoreSpace more with
    | [] => fault .repetitionCountUnclosed (stretch start [])
    | '}' :: after =>
      let (min, _) ← least
      return ((min, none), after)
    | behind =>
      let (min, _) ← least
      let (max, after) ← readDecimal ignoreSpace behind
      match after with
      | '}' :: after' =>
        if max < min then
          fault .repetitionCountInvalid (stretch start (skipLazy (skip ignoreSpace after')))
        else return ((min, some max), after')
      | _ => fault .repetitionCountUnclosed (stretch start after)
  | _ =>
    let (min, _) ← least
    match rest with
    | '}' :: after => return ((min, some min), after)
    | _ => fault .repetitionCountUnclosed (stretch start rest)

/-- Repeat the last part. -/
def repeatLast (p : Progress) (cs : List Char) (min : Nat) (max? : Option Nat) :
    Except Fault Progress :=
  match p.takeLast? with
  | none => faultAt .repetitionMissing cs
  | some (part, p) => .ok (p.add (.repetition min max? part))

/-! ### The whole pattern -/

/-- Read one part of a pattern. -/
def readPart (p : Progress) (cs : List Char) : Except Fault (Progress × List Char) := do
  match cs with
  | [] => return (p, [])
  | '(' :: _ => openGroup p cs
  | ')' :: rest =>
    match p.leave? with
    | some p => return (p, rest)
    | none => fault .groupUnopened (nextStretch cs)
  | '|' :: rest => return ({ p with branches := p.branches ++ [.ofParts p.parts], parts := [] }, rest)
  | '[' :: _ =>
    let (ast, rest) ← readClass p.ignoreSpace cs
    return (p.add ast, rest)
  | '?' :: rest => return (← repeatLast p cs 0 (some 1), skipLazy rest)
  | '*' :: rest => return (← repeatLast p cs 0 none, skipLazy rest)
  | '+' :: rest => return (← repeatLast p cs 1 none, skipLazy rest)
  | '{' :: _ =>
    if p.takeLast?.isNone then faultAt .repetitionMissing cs
    let ((min, max?), rest) ← readCounts p.ignoreSpace cs
    return (← repeatLast p cs min max?, skipLazy (skip p.ignoreSpace rest))
  | '\\' :: rest =>
    let (primitive, rest) ← readEscape p.ignoreSpace cs rest
    return (p.add primitive.toAst, rest)
  | '.' :: rest => return (p.add (.dot (nextStretch cs)), rest)
  | '^' :: rest => return (p.add (.assertion .startLine), rest)
  | '$' :: rest => return (p.add (.assertion .endLine), rest)
  | c :: rest => return (p.add (.literal ⟨c, false, nextStretch cs⟩), rest)

/-- Read the rest of a pattern. A step that would take nothing is followed by one
on a shorter text, so reading ends. -/
def readParts (p : Progress) (cs : List Char) : Except Fault Progress :=
  match _h : skip p.ignoreSpace cs with
  | [] => .ok p
  | c :: shorter =>
    match readPart p (c :: shorter) with
    | .error e => .error e
    | .ok (next, rest) =>
      if rest.length ≤ shorter.length then readParts next rest else readParts next shorter
termination_by cs.length
decreasing_by
  all_goals
    have h := length_skip_le p.ignoreSpace cs
    grind

/-- Read a pattern. -/
def read (pattern : String) : Except Fault Ast := do
  let cs := pattern.toList
  let p ← readParts {} cs
  match p.opened with
  | g :: _ => fault .groupUnclosed g.start
  | [] =>
    let ast := p.contents
    if maxDepth < ast.depth then fault (.nestLimitExceeded maxDepth) (stretch cs [])
    else return ast

end Waymark.Pattern
