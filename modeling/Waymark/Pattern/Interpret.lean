import Waymark.Pattern.Property
import Waymark.Unicode.CaseFolding

/-!
# Waymark.Pattern.Interpret

From patterns as written to terms: flags take effect, and names become sets.

Design points:

* a change of flags lasts to the end of the group it stands in, so the modes are
  passed on from part to part, and a group gives back those it got;
* without the flag for Unicode a pattern speaks about bytes. Texts consist of
  characters, so only what stays within ASCII is allowed there, and every
  negation leaves it.
-/

namespace Waymark.Pattern

/-- What the flags have switched on at some place of a pattern. -/
structure Modes where
  /-- Case does not matter. -/
  ignoreCase : Bool := false
  /-- Lines have starts and ends of their own. -/
  multiLine : Bool := false
  /-- The dot matches line ends, too. -/
  dotAll : Bool := false
  /-- Characters are those of Unicode. -/
  unicode : Bool := true
  /-- Carriage returns end lines. -/
  crlf : Bool := false
  deriving DecidableEq, Repr

namespace Modes

/-- Switch one flag. Flags that say how a pattern is written, or which match is
found first, change nothing here. -/
def switch (modes : Modes) : Flag × Bool → Modes
  | (.ignoreCase, on) => { modes with ignoreCase := on }
  | (.multiLine, on) => { modes with multiLine := on }
  | (.dotAll, on) => { modes with dotAll := on }
  | (.unicode, on) => { modes with unicode := on }
  | (.crlf, on) => { modes with crlf := on }
  | (.swapGreed, _) | (.ignoreSpace, _) => modes

/-- Switch several flags. -/
def apply (modes : Modes) (flags : FlagList) : Modes := flags.foldl switch modes

end Modes

/-! ### Sets -/

/-- The letters of ASCII that differ from one of a set in case only. -/
def otherCase (set : CharSet) : CharSet :=
  let moved (first last shift : Nat) : List (Nat × Nat) :=
    ((List.range (last + 1 - first)).map (first + ·)).filter set.containsCode
      |>.map fun code => (code + shift, code + shift)
  let lowered := moved 65 90 32
  let raised := (moved 97 122 0).map fun (code, _) => (code - 32, code - 32)
  .ofRanges (lowered ++ raised)

/-- A set with all cases of its characters, if case does not matter. -/
def fold (modes : Modes) (set : CharSet) : CharSet :=
  if !modes.ignoreCase then set
  else if modes.unicode then Unicode.closeUnderCase set
  else set.union (otherCase set)

/-- The set or, if it is negated, all other characters. -/
def negate (modes : Modes) (place : Stretch) (negated : Bool) (set : CharSet) : Except Fault CharSet :=
  if !negated then .ok set
  else if modes.unicode then .ok set.complement
  else .error { kind := .invalidUtf8, place }

/-- The characters of a kind. -/
def shorthandChars (modes : Modes) (place : Stretch) (kind : Shorthand) (negated : Bool) :
    Except Fault CharSet :=
  negate modes place negated (kind.chars modes.unicode)

/-- The characters of a property. -/
def propertySet (modes : Modes) (place : Stretch) (query : PropertyQuery) (negated : Bool) :
    Except Fault CharSet :=
  if !modes.unicode then .error { kind := .unicodeNotAllowed, place }
  else
    match query.chars? with
    | .ok set => negate modes place negated (fold modes set)
    | .error kind => .error { kind, place }

/-- The character that a literal means outside a class. -/
def literalChar (modes : Modes) (l : Literal) : Except Fault Char :=
  if !modes.unicode && l.isByte && 127 < l.char.toNat then
    .error { kind := .invalidUtf8, place := l.place }
  else .ok l.char

/-- The character that a literal means in a class. -/
def classChar (modes : Modes) (l : Literal) : Except Fault Char := do
  let c ← literalChar modes l
  if !modes.unicode && 127 < c.toNat then .error { kind := .unicodeNotAllowed, place := l.place }
  else return c

/-- The characters of a literal outside a class. -/
def literalChars (modes : Modes) (l : Literal) : Except Fault CharSet := do
  let c ← literalChar modes l
  if modes.ignoreCase && !modes.unicode && 127 < c.toNat then
    .error { kind := .unicodeNotAllowed, place := l.place }
  else return fold modes (.singleton c)

/-- The set of a part of a class. -/
def itemChars (modes : Modes) : ClassItem → Except Fault CharSet
  | .empty => .ok .empty
  | .literal l => return .singleton (← classChar modes l)
  | .range first last => return .range (← classChar modes first) (← classChar modes last)
  | .ascii set negated place => negate modes place negated (fold modes set)
  | .shorthand kind negated place => shorthandChars modes place kind negated
  | .property query negated place => propertySet modes place query negated
  | .bracketed negated body place => do
    negate modes place negated (fold modes (← itemChars modes body))
  | .union first second => return (← itemChars modes first).union (← itemChars modes second)
  | .operation op left right => do
    let left := fold modes (← itemChars modes left)
    let right := fold modes (← itemChars modes right)
    match op with
    | .intersection => return left.inter right
    | .difference => return left.diff right
    | .symmetricDifference => return left.symmDiff right

/-- The characters that a dot matches. -/
def dotChars (modes : Modes) (place : Stretch) : Except Fault CharSet :=
  if !modes.unicode then .error { kind := .invalidUtf8, place }
  else if modes.dotAll then .ok .full
  else if modes.crlf then .ok (CharSet.ofChars ['\n', '\r']).complement
  else .ok (CharSet.singleton '\n').complement

/-- The condition that an assertion means. -/
def Assertion.look (modes : Modes) : Assertion → Look
  | .startLine => if modes.multiLine then .lineStart modes.crlf else .textStart
  | .endLine => if modes.multiLine then .lineEnd modes.crlf else .textEnd
  | .startText => .textStart
  | .endText => .textEnd
  | .word edge => .word edge (Shorthand.word.chars modes.unicode)

/-! ### Patterns -/

mutual

/-- The term of a pattern, and the modes after it. -/
def interpret (modes : Modes) : Ast → Except Fault (Term × Modes)
  | .empty => .ok (.empty, modes)
  | .flags flags => .ok (.empty, modes.apply flags)
  | .literal l => return (.chars (← literalChars modes l), modes)
  | .dot place => return (.chars (← dotChars modes place), modes)
  | .assertion assertion => .ok (.look (assertion.look modes), modes)
  | .shorthand kind negated place => return (.chars (← shorthandChars modes place kind negated), modes)
  | .property query negated place =>
    return (.chars (← propertySet modes place query negated), modes)
  | .bracketed negated body place => do
    let set ← negate modes place negated (fold modes (← itemChars modes body))
    return (.chars set, modes)
  | .repetition min max? body => do
    let (term, after) ← interpret modes body
    return (.iterate min max? term, after)
  | .group flags captures body => do
    let (term, _) ← interpret (modes.apply flags) body
    return (if captures then .group term else term, modes)
  | .alternation branches => interpretBranches modes branches
  | .concat parts => interpretParts modes parts

/-- The term of parts in a row. -/
def interpretParts (modes : Modes) : List Ast → Except Fault (Term × Modes)
  | [] => .ok (.empty, modes)
  | [part] => interpret modes part
  | part :: parts => do
    let (first, modes) ← interpret modes part
    let (second, modes) ← interpretParts modes parts
    return (.seq first second, modes)

/-- The term of branches to choose from. -/
def interpretBranches (modes : Modes) : List Ast → Except Fault (Term × Modes)
  | [] => .ok (.empty, modes)
  | [branch] => interpret modes branch
  | branch :: branches => do
    let (first, modes) ← interpret modes branch
    let (second, modes) ← interpretBranches modes branches
    return (.alt first second, modes)

end

end Waymark.Pattern
