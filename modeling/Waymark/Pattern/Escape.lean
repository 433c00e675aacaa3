import Waymark.Pattern.Ast
import Waymark.Text.Space

/-!
# Waymark.Pattern.Escape

Reading what starts with a backslash, and the numbers in patterns.

Design points:

* a reader takes the characters that are left and returns what it has read with
  the characters after it; a place is known by the number of characters left;
* with the flag for blanks set, blanks and comments may stand between all
  characters, those of one escape included.
-/

namespace Waymark.Pattern

/-- The stretch from where some characters were left to where others are. -/
def stretch (start stop : List Char) : Stretch := ⟨start.length, stop.length⟩

/-- The stretch of the next character, or nothing at the end. -/
def nextStretch (cs : List Char) : Stretch := ⟨cs.length, cs.length - 1⟩

/-- A fault of a stretch. -/
def fault {α : Type} (kind : FaultKind) (place : Stretch) : Except Fault α :=
  .error { kind, place }

/-- A fault at the current position. -/
def faultAt {α : Type} (kind : FaultKind) (cs : List Char) : Except Fault α :=
  fault kind (stretch cs cs)

/-! ### Blanks and comments -/

/-- Skip blanks and comments; `inComment` says whether a comment has begun. -/
def skipBlanks : (inComment : Bool) → List Char → List Char
  | _, [] => []
  | true, c :: cs => skipBlanks (c ≠ '\n') cs
  | false, c :: cs =>
    if Text.isSpace c then skipBlanks false cs
    else if c = '#' then skipBlanks true cs
    else c :: cs

/-- Skip blanks and comments if they do not count. -/
def skip (ignoreSpace : Bool) (cs : List Char) : List Char :=
  if ignoreSpace then skipBlanks false cs else cs

theorem length_skipBlanks_le (inComment : Bool) (cs : List Char) :
    (skipBlanks inComment cs).length ≤ cs.length := by
  fun_induction skipBlanks inComment cs <;> grind

theorem length_skip_le (ignoreSpace : Bool) (cs : List Char) :
    (skip ignoreSpace cs).length ≤ cs.length := by
  unfold skip
  split
  · exact length_skipBlanks_le false cs
  · exact Nat.le_refl _

/-- The next character that a look over blanks finds. In a comment any character
that is not blank is found. -/
def peekOver (inComment : Bool) : List Char → Option Char
  | [] => none
  | c :: cs =>
    if Text.isSpace c then peekOver inComment cs
    else if !inComment && c = '#' then peekOver true cs
    else some c

/-- The character after the next one, over blanks if they do not count. -/
def peekSecond (ignoreSpace : Bool) : List Char → Option Char
  | [] => none
  | _ :: cs => if ignoreSpace then (peekOver false cs).or cs.head? else cs.head?

/-! ### Numbers -/

/-- Read decimal digits. -/
def readDigits (ignoreSpace : Bool) (digits : List Char) : List Char → List Char × List Char
  | [] => (digits, [])
  | c :: cs =>
    if c.isDigit then readDigits ignoreSpace (digits ++ [c]) (skip ignoreSpace cs)
    else (digits, c :: cs)
termination_by cs => cs.length
decreasing_by exact Nat.lt_succ_of_le (length_skip_le ignoreSpace cs)

/-- The greatest number in a pattern. -/
def maxNumber : Nat := 0xffffffff

/-- Read a decimal number, with blanks around it. -/
def readDecimal (ignoreSpace : Bool) (cs : List Char) : Except Fault (Nat × List Char) :=
  let start := cs.dropWhile Text.isSpace
  let (digits, rest) := readDigits ignoreSpace [] start
  let place := stretch start rest
  let rest := skip ignoreSpace (rest.dropWhile Text.isSpace)
  let value := digits.foldl (fun n c => 10 * n + (c.toNat - '0'.toNat)) 0
  if digits = [] then fault .repetitionCountDecimalEmpty place
  else if maxNumber < value then fault .decimalInvalid place
  else .ok (value, rest)

/-- The value of a hexadecimal digit. -/
def hexValue? (c : Char) : Option Nat :=
  if c.isDigit then some (c.toNat - '0'.toNat)
  else if 'a' ≤ c ∧ c ≤ 'f' then some (c.toNat - 'a'.toNat + 10)
  else if 'A' ≤ c ∧ c ≤ 'F' then some (c.toNat - 'A'.toNat + 10)
  else none

/-- The character of a code point, unless there is none. -/
def charOfCode? (code : Nat) : Option Char :=
  if h : code.isValidChar then some (Char.ofNatAux code h) else none

/-- Read a fixed number of hexadecimal digits, when some have been read. -/
def readHexDigits (ignoreSpace : Bool) (value : Nat) : (count : Nat) → List Char → Except Fault (Nat × List Char)
  | 0, cs => .ok (value, cs)
  | _ + 1, [] => faultAt .escapeUnexpectedEnd []
  | count + 1, c :: cs =>
    match hexValue? c with
    | none => fault .escapeHexInvalidDigit (nextStretch (c :: cs))
    | some digit => readHexDigits ignoreSpace (16 * value + digit) count (skip ignoreSpace cs)

/-- Read hexadecimal digits up to a closing brace: their number, their value, and
the characters from the brace on. `start` is where the opening brace is. -/
def readHexUntilBrace (ignoreSpace : Bool) (start : List Char) (count value : Nat) :
    List Char → Except Fault ((Nat × Nat) × List Char)
  | [] => fault .escapeUnexpectedEnd (stretch start [])
  | c :: cs =>
    if c = '}' then .ok ((count, value), c :: cs)
    else
      match hexValue? c with
      | none => fault .escapeHexInvalidDigit (nextStretch (c :: cs))
      | some digit =>
        readHexUntilBrace ignoreSpace start (count + 1) (16 * value + digit) (skip ignoreSpace cs)
termination_by cs => cs.length
decreasing_by exact Nat.lt_succ_of_le (length_skip_le ignoreSpace cs)

/-- Read the digits of a hexadecimal escape, in braces or `count` of them. -/
def readHex (ignoreSpace : Bool) (count : Nat) (cs : List Char) : Except Fault (Char × List Char) := do
  match skip ignoreSpace cs with
  | [] => faultAt .escapeUnexpectedEnd []
  | '{' :: inside =>
    let start := '{' :: inside
    let ((digits, value), rest) ←
      readHexUntilBrace ignoreSpace start 0 0 (skip ignoreSpace inside)
    let after := skip ignoreSpace rest.tail
    if digits = 0 then fault .escapeHexEmpty (stretch start after)
    else
      match charOfCode? value with
      | some c => return (c, after)
      | none => fault .escapeHexInvalid (stretch inside rest)
  | start =>
    let (value, rest) ← readHexDigits ignoreSpace 0 count start
    match charOfCode? value with
    | some c => return (c, rest)
    | none => fault .escapeHexInvalid (stretch start rest)

/-! ### Properties -/

/-- Split a text at the first place where it continues with `sep`. -/
def splitAt? (sep : List Char) : List Char → Option (List Char × List Char)
  | [] => none
  | c :: cs =>
    if sep.isPrefixOf (c :: cs) then some ([], (c :: cs).drop sep.length)
    else (splitAt? sep cs).map fun (before, after) => (c :: before, after)

/-- The property that the text between braces asks for, and whether it is negated
there. -/
def propertyOf (name : List Char) : PropertyQuery × Bool :=
  let valued (split : List Char × List Char) : PropertyQuery :=
    .valued (String.ofList split.1) (String.ofList split.2)
  match splitAt? ['!', '='] name, splitAt? [':'] name, splitAt? ['='] name with
  | some split, _, _ => (valued split, true)
  | none, some split, _ => (valued split, false)
  | none, none, some split => (valued split, false)
  | none, none, none => (.named (String.ofList name), false)

/-- Read a property name up to its closing brace. -/
def readPropertyName (ignoreSpace : Bool) (name : List Char) : List Char → Except Fault ((List Char) × List Char)
  | [] => faultAt .escapeUnexpectedEnd []
  | c :: cs =>
    if c = '}' then .ok (name, cs)
    else readPropertyName ignoreSpace (name ++ [c]) (skip ignoreSpace cs)
termination_by cs => cs.length
decreasing_by exact Nat.lt_succ_of_le (length_skip_le ignoreSpace cs)

/-- Read the property after `\p`. -/
def readProperty (ignoreSpace : Bool) (cs : List Char) : Except Fault ((PropertyQuery × Bool) × List Char) := do
  match skip ignoreSpace cs with
  | [] => faultAt .escapeUnexpectedEnd []
  | '{' :: inside =>
    let (name, rest) ← readPropertyName ignoreSpace [] (skip ignoreSpace inside)
    return (propertyOf name, rest)
  | c :: rest =>
    if c = '\\' then fault .unicodeClassInvalid (nextStretch (c :: rest))
    else return ((.named c.toString, false), skip ignoreSpace rest)

/-! ### Escapes -/

/-- What stands for one character, or for a condition on the position. -/
inductive Primitive where
  /-- A character. -/
  | literal (char : Literal)
  /-- A condition. -/
  | assertion (assertion : Assertion) (place : Stretch)
  /-- A set that an escape names. -/
  | shorthand (kind : Shorthand) (negated : Bool) (place : Stretch)
  /-- The characters of a property. -/
  | property (query : PropertyQuery) (negated : Bool) (place : Stretch)

/-- The stretch of a primitive. -/
def Primitive.place : Primitive → Stretch
  | literal char => char.place
  | assertion _ place | shorthand _ _ place | property _ _ place => place

/-- The pattern of a primitive. -/
def Primitive.toAst : Primitive → Ast
  | literal char => .literal char
  | assertion a _ => .assertion a
  | shorthand kind negated place => .shorthand kind negated place
  | property query negated place => .property query negated place

/-- The part of a class that a primitive is. -/
def Primitive.toItem : Primitive → Except Fault ClassItem
  | literal char => .ok (.literal char)
  | assertion _ place => fault .classEscapeInvalid place
  | shorthand kind negated place => .ok (.shorthand kind negated place)
  | property query negated place => .ok (.property query negated place)

/-- The character of a range that a primitive is. -/
def Primitive.toLiteral : Primitive → Except Fault Literal
  | literal char => .ok char
  | other => fault .classRangeLiteral other.place

/-- Whether a backslash before a character makes it stand for itself: every
character of ASCII but letters, digits and angle brackets. -/
def isEscapable (c : Char) : Bool := c.toNat < 128 && !c.isAlphanum && c ≠ '<' && c ≠ '>'

/-- The character that a letter after a backslash stands for. -/
def controlOf? : Char → Option Char
  | 'a' => some '\x07'
  | 'f' => some '\x0c'
  | 't' => some '\t'
  | 'n' => some '\n'
  | 'r' => some '\r'
  | 'v' => some '\x0b'
  | _ => none

/-- The set that a letter after a backslash stands for. -/
def shorthandOf? : Char → Option (Shorthand × Bool)
  | 'd' => some (.digit, false)
  | 'D' => some (.digit, true)
  | 's' => some (.space, false)
  | 'S' => some (.space, true)
  | 'w' => some (.word, false)
  | 'W' => some (.word, true)
  | _ => none

/-- The condition that a character after a backslash stands for. -/
def assertionOf? : Char → Option Assertion
  | 'A' => some .startText
  | 'z' => some .endText
  | 'b' => some (.word .boundary)
  | 'B' => some (.word .noBoundary)
  | '<' => some (.word .start)
  | '>' => some (.word .stop)
  | _ => none

/-- The condition on words of a name. -/
def wordEdgeOf? : String → Option WordEdge
  | "start" => some .start
  | "end" => some .stop
  | "start-half" => some .startHalf
  | "end-half" => some .stopHalf
  | _ => none

/-- Whether a character may stand in the name of a condition on words. -/
def isEdgeChar (c : Char) : Bool := c.isAlpha || c = '-'

/-- Read the name of a condition on words. -/
def readEdgeName (ignoreSpace : Bool) (name : List Char) : List Char → List Char × List Char
  | [] => (name, [])
  | c :: cs =>
    if isEdgeChar c then readEdgeName ignoreSpace (name ++ [c]) (skip ignoreSpace cs)
    else (name, c :: cs)
termination_by cs => cs.length
decreasing_by exact Nat.lt_succ_of_le (length_skip_le ignoreSpace cs)

/-- Read the braces after `\b`, if a name stands in them: what they mean, or none
when they are a repetition. `start` is where the backslash is. -/
def readEdge? (ignoreSpace : Bool) (start cs : List Char) : Except Fault ((Option WordEdge) × List Char) :=
  match cs with
  | '{' :: inside =>
    match skip ignoreSpace inside with
    | [] => fault .wordBoundaryUnexpectedEnd (stretch start [])
    | c :: rest =>
      if !isEdgeChar c then .ok (none, cs)
      else
        let (name, after) := readEdgeName ignoreSpace [] (c :: rest)
        match after with
        | '}' :: after' =>
          match wordEdgeOf? (String.ofList name) with
          | some edge => .ok (some edge, after')
          | none => fault .wordBoundaryUnrecognized (stretch (c :: rest) after)
        | _ => fault .wordBoundaryUnclosed (stretch cs after)
  | _ => .ok (none, cs)

/-- Read an escape. `start` begins with the backslash, which `cs` follows. -/
def readEscape (ignoreSpace : Bool) (start cs : List Char) : Except Fault (Primitive × List Char) := do
  match cs with
  | [] => fault .escapeUnexpectedEnd (stretch start [])
  | c :: rest =>
    let place := stretch start rest
    if c.isDigit then fault .unsupportedBackreference place
    else if c = 'x' ∨ c = 'u' ∨ c = 'U' then
      let count := if c = 'x' then 2 else if c = 'u' then 4 else 8
      let (char, after) ← readHex ignoreSpace count rest
      let isByte := c = 'x' && (skip ignoreSpace rest).head? ≠ some '{'
      return (.literal ⟨char, isByte, stretch start after⟩, after)
    else if c = 'p' ∨ c = 'P' then
      let ((query, negated), after) ← readProperty ignoreSpace rest
      return (.property query (negated != (c = 'P')) (stretch start after), after)
    else if let some (kind, negated) := shorthandOf? c then
      return (.shorthand kind negated place, rest)
    else if isEscapable c then return (.literal ⟨c, false, place⟩, rest)
    else if let some control := controlOf? c then
      return (.literal ⟨control, false, place⟩, rest)
    else if c = 'b' then
      let (edge?, after) ← readEdge? ignoreSpace start rest
      return (.assertion (.word (edge?.getD .boundary)) (stretch start after), after)
    else if let some assertion := assertionOf? c then
      return (.assertion assertion place, rest)
    else fault .escapeUnrecognized place

end Waymark.Pattern
