import Waymark.Pattern.Escape

/-!
# Waymark.Pattern.ClassReader

Reading classes in brackets.

Design points:

* a class may hold classes; those that are open are kept on a stack, innermost
  first, and one step reads one part of the innermost;
* the operations on sets have the same strength and are taken from the left.
-/

namespace Waymark.Pattern

/-- A class that waits for its closing bracket. -/
structure OpenClass where
  /-- Whether it is negated. -/
  negated : Bool
  /-- Where its opening bracket is. -/
  start : List Char
  /-- The stretch from there to its first part. -/
  opening : Stretch
  /-- The operation that waits for its right side, with its left side. -/
  pending? : Option (SetOp × ClassItem) := none
  /-- The parts read since. -/
  parts : List ClassItem := []

namespace OpenClass

/-- Add a part. -/
def add (c : OpenClass) (part : ClassItem) : OpenClass := { c with parts := c.parts ++ [part] }

/-- All that has been read as one set. -/
def contents (c : OpenClass) : ClassItem :=
  match c.pending? with
  | none => .ofParts c.parts
  | some (op, left) => .operation op left (.ofParts c.parts)

/-- Begin the right side of an operation. -/
def operate (c : OpenClass) (op : SetOp) : OpenClass :=
  { c with pending? := some (op, c.contents), parts := [] }

end OpenClass

/-- The fault of a class that is not closed. -/
def unclosedClass {α : Type} (c : OpenClass) : Except Fault α := fault .classUnclosed c.opening

/-! ### Opening brackets -/

/-- Read the hyphens that stand for themselves at the start of a class. -/
def readHyphens (ignoreSpace : Bool) (start : List Char) (parts : List ClassItem) :
    List Char → Except Fault (List ClassItem × List Char)
  | '-' :: cs =>
    let rest := skip ignoreSpace cs
    let part : ClassItem := .literal ⟨'-', false, nextStretch ('-' :: cs)⟩
    if rest = [] then fault .classUnclosed (stretch start start)
    else readHyphens ignoreSpace start (parts ++ [part]) rest
  | cs => .ok (parts, cs)
termination_by cs => cs.length
decreasing_by exact Nat.lt_succ_of_le (length_skip_le ignoreSpace cs)

/-- Read an opening bracket, which `start` begins with, and what belongs to it. A
closing bracket right after it stands for itself. -/
def readOpening (ignoreSpace : Bool) (start : List Char) : Except Fault (OpenClass × List Char) := do
  let first := skip ignoreSpace start.tail
  if first = [] then fault .classUnclosed (stretch start [])
  let negated := first.head? = some '^'
  let second := if negated then skip ignoreSpace first.tail else first
  if second = [] then fault .classUnclosed (stretch start [])
  let (parts, third) ← readHyphens ignoreSpace start [] second
  if parts.isEmpty && third.head? = some ']' then
    let fourth := skip ignoreSpace third.tail
    if fourth = [] then fault .classUnclosed (stretch start [])
    else
      return (⟨negated, start, stretch start fourth, none,
        [.literal ⟨']', false, nextStretch third⟩]⟩, fourth)
  else return (⟨negated, start, stretch start third, none, parts⟩, third)

/-! ### Parts -/

/-- The named sets of ASCII. -/
def asciiSets : List (String × List (Char × Char)) := [
  ("alnum", [('0', '9'), ('A', 'Z'), ('a', 'z')]),
  ("alpha", [('A', 'Z'), ('a', 'z')]),
  ("ascii", [('\x00', '\x7f')]),
  ("blank", [('\t', '\t'), (' ', ' ')]),
  ("cntrl", [('\x00', '\x1f'), ('\x7f', '\x7f')]),
  ("digit", [('0', '9')]),
  ("graph", [('!', '~')]),
  ("lower", [('a', 'z')]),
  ("print", [(' ', '~')]),
  ("punct", [('!', '/'), (':', '@'), ('[', '\x60'), ('\x7b', '~')]),
  ("space", [('\t', '\r'), (' ', ' ')]),
  ("upper", [('A', 'Z')]),
  ("word", [('0', '9'), ('A', 'Z'), ('_', '_'), ('a', 'z')]),
  ("xdigit", [('0', '9'), ('A', 'F'), ('a', 'f')])]

/-- Read a named set of ASCII such as `[:alpha:]`, if there is one. -/
def readAsciiSet? (start : List Char) : Option (ClassItem × List Char) :=
  match start with
  | '[' :: ':' :: rest =>
    let negated := rest.head? = some '^'
    let name := (if negated then rest.tail else rest).takeWhile (· ≠ ':')
    match (if negated then rest.tail else rest).dropWhile (· ≠ ':') with
    | ':' :: ']' :: after =>
      match asciiSets.lookup (String.ofList name) with
      | some ranges =>
        let set := CharSet.ofRanges (ranges.map fun (a, b) => (a.toNat, b.toNat))
        some (.ascii set negated (stretch start after), after)
      | none => none
    | _ => none
  | _ => none

/-- Read a character or an escape in a class. -/
def readClassPrimitive (ignoreSpace : Bool) (cs : List Char) : Except Fault (Primitive × List Char) :=
  match cs with
  | '\\' :: rest => readEscape ignoreSpace cs rest
  | c :: rest => .ok (.literal ⟨c, false, nextStretch cs⟩, rest)
  | [] => fault .escapeUnexpectedEnd (stretch cs cs)

/-- Read a character, an escape or a range in the class `c`. -/
def readClassPart (ignoreSpace : Bool) (c : OpenClass) (cs : List Char) :
    Except Fault (ClassItem × List Char) := do
  let (first, rest) ← readClassPrimitive ignoreSpace cs
  match skip ignoreSpace rest with
  | [] => unclosedClass c
  | next :: more =>
    let second := peekSecond ignoreSpace (next :: more)
    if next ≠ '-' ∨ second = some ']' ∨ second = some '-' then
      return (← first.toItem, next :: more)
    else
      let behind := skip ignoreSpace more
      if behind = [] then unclosedClass c
      else
        let (last, after) ← readClassPrimitive ignoreSpace behind
        let place : Stretch := ⟨first.place.start, last.place.stop⟩
        let low ← first.toLiteral
        let high ← last.toLiteral
        if high.char < low.char then fault .classRangeInvalid place
        else return (.range low high, after)

/-- The operation that two characters stand for. -/
def setOpOf? : Char → Char → Option SetOp
  | '&', '&' => some .intersection
  | '-', '-' => some .difference
  | '~', '~' => some .symmetricDifference
  | _, _ => none

/-- What a step of reading leads to: more to read, or the end of a class. -/
inductive ClassStep where
  /-- The classes that are open now. -/
  | more (stack : List OpenClass)
  /-- The class that has been read. -/
  | done (negated : Bool) (body : ClassItem) (place : Stretch)

/-- Read one part of the innermost open class. -/
def classStep (ignoreSpace : Bool) (c : OpenClass) (outer : List OpenClass) (cs : List Char) :
    Except Fault (ClassStep × List Char) :=
  match cs with
  | [] => unclosedClass c
  | '[' :: _ =>
    match readAsciiSet? cs with
    | some (set, rest) => .ok (.more (c.add set :: outer), rest)
    | none => do
      let (inner, rest) ← readOpening ignoreSpace cs
      return (.more (inner :: c :: outer), rest)
  | ']' :: rest =>
    let place := stretch c.start rest
    match outer with
    | [] => .ok (.done c.negated c.contents place, rest)
    | parent :: outer =>
      .ok (.more (parent.add (.bracketed c.negated c.contents place) :: outer), rest)
  | a :: rest =>
    match rest.head?.bind (setOpOf? a) with
    | some op => .ok (.more (c.operate op :: outer), rest.tail)
    | none => do
      let (part, rest) ← readClassPart ignoreSpace c cs
      return (.more (c.add part :: outer), rest)

/-- Read the open classes of a stack to their ends. A step that would take nothing
is followed by one on a shorter text, so reading ends. -/
def readClasses (ignoreSpace : Bool) (stack : List OpenClass) (cs : List Char) :
    Except Fault (Ast × List Char) :=
  match stack with
  | [] => .ok (.empty, cs)
  | c :: outer =>
    match classStep ignoreSpace c outer (skip ignoreSpace cs) with
    | .error e => .error e
    | .ok (.done negated body place, rest) => .ok (.bracketed negated body place, rest)
    | .ok (.more stack, rest) =>
      if rest.length < cs.length then readClasses ignoreSpace stack rest
      else
        match _h : cs with
        | [] => unclosedClass c
        | _ :: shorter => readClasses ignoreSpace stack shorter
termination_by cs.length

/-- Read a class, whose opening bracket `cs` begins with. -/
def readClass (ignoreSpace : Bool) (cs : List Char) : Except Fault (Ast × List Char) := do
  let (c, rest) ← readOpening ignoreSpace cs
  readClasses ignoreSpace [c] rest

end Waymark.Pattern
