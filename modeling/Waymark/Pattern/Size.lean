import Waymark.Pattern.Term

/-!
# Waymark.Pattern.Size

How large a machine is that runs a term over the bytes of a text.

Design points:

* a machine consists of states and of the edges between them, and a repetition
  has its body as often as it is repeated;
* a set of characters becomes rows of byte ranges, one row for each shape that
  the UTF-8 forms of its characters have; rows that begin alike share states;
* there is a machine for each direction of reading. Groups are marked by the one
  that reads forward alone.
-/

namespace Waymark.Pattern

/-- The direction in which a machine reads a text. -/
inductive Direction where
  /-- From the start to the end. -/
  | forward
  /-- From the end to the start. -/
  | backward
  deriving DecidableEq, Repr

/-! ### Byte ranges -/

/-- A row of byte ranges: first and last byte at each place. -/
abbrev ByteRow := List (Nat × Nat)

/-- The rows for the numbers from `first` to `last`, written as a byte that begins
at `mark` and `count` bytes with six bits each. Every number belongs to one row,
and every row to numbers in that interval alone. -/
def byteRows (mark : Nat) : (count : Nat) → (first last : Nat) → List ByteRow
  | 0, first, last => [[(mark + first, mark + last)]]
  | count + 1, first, last =>
    let unit := 1 <<< (6 * (count + 1))
    let rowsFor (least greatest : Nat) (rows : List ByteRow) : List ByteRow :=
      rows.map ((mark + least, mark + greatest) :: ·)
    let low := first / unit
    let high := last / unit
    if low = high then rowsFor low low (byteRows 0x80 count (first % unit) (last % unit))
    else
      let fromStart := first % unit = 0
      let toEnd := last % unit = unit - 1
      let least := if fromStart then low else low + 1
      let greatest := if toEnd then high else high - 1
      (if fromStart then []
        else rowsFor low low (byteRows 0x80 count (first % unit) (unit - 1))) ++
      (if least ≤ greatest then rowsFor least greatest (byteRows 0x80 count 0 (unit - 1))
        else []) ++
      (if toEnd then [] else rowsFor high high (byteRows 0x80 count 0 (last % unit)))

/-- The code points that have UTF-8 forms of one length: the first and the last of
them, where the first byte begins, and the number of bytes after it. -/
def formRanges : List (Nat × Nat × Nat × Nat) :=
  [(0, 0x7f, 0, 0), (0x80, 0x7ff, 0xc0, 1), (0x800, 0xd7ff, 0xe0, 2), (0xe000, 0xffff, 0xe0, 2),
    (0x10000, 0x10ffff, 0xf0, 3)]

/-- The rows of a set of characters. -/
def charRows (set : CharSet) : List ByteRow :=
  set.ranges.flatMap fun (first, last) =>
    formRanges.flatMap fun (least, greatest, mark, count) =>
      if max first least ≤ min last greatest then
        byteRows mark count (max first least) (min last greatest)
      else []

/-- The number of places at which two rows agree from the start on. -/
def sharedLength : ByteRow → ByteRow → Nat
  | a :: row, b :: other => if a = b then 1 + sharedLength row other else 0
  | _, _ => 0

/-- The number of edges that rows in ascending order need, after a row that has
its edges. -/
def edgeCount (previous : ByteRow) : List ByteRow → Nat
  | [] => 0
  | row :: rows => (row.length - sharedLength previous row) + edgeCount row rows

/-! ### Sizes -/

/-- The bytes of a state. -/
def stateSize : Nat := 32

/-- The bytes of an edge that reads a byte. -/
def readingEdgeSize : Nat := 8

/-- The bytes of an edge that reads nothing. -/
def freeEdgeSize : Nat := 4

/-- The bytes that a set of characters needs. A single character is a row of
states. Reading backward, all edges of the rows are states, and each row is a
choice of its own. -/
def setSize (direction : Direction) (set : CharSet) : Nat :=
  let rows := charRows set
  let edges := edgeCount [] rows
  if set.size = 1 then stateSize * edges
  else if set.ranges.all (·.2 < 128) then 2 * stateSize + readingEdgeSize * rows.length
  else
    match direction with
    | .forward => stateSize * (2 + edges - rows.length) + readingEdgeSize * edges
    | .backward => stateSize * (2 + edges) + freeEdgeSize * rows.length

namespace Term

/-- Whether a term matches the empty text, or nothing. -/
def isNullable : Term → Bool
  | empty => true
  | chars set => set.isEmpty
  | look _ => true
  | seq first second => first.isNullable && second.isNullable
  | alt first second => first.isNullable || second.isNullable
  | iterate min _ body => min = 0 || body.isNullable
  | group body => body.isNullable

/-- Whether a term matches the empty text alone. -/
def isVoid : Term → Bool
  | empty => true
  | chars _ => false
  | look _ => true
  | seq first second => first.isVoid && second.isVoid
  | alt first second => first.isVoid && second.isVoid
  | iterate _ max? body => max? = some 0 || body.isVoid
  | group body => body.isVoid

/-- The characters that a term chooses from, if it is a choice of characters. -/
def choice? : Term → Option CharSet
  | chars set => some set
  | alt first second =>
    match first.choice?, second.choice? with
    | some a, some b => some (a.union b)
    | _, _ => none
  | _ => none

/-- The bytes of a repetition whose body has `once` bytes. -/
def iterationSize (once min : Nat) (max? : Option Nat) (nullable : Bool) : Nat :=
  let again := once + stateSize + 2 * freeEdgeSize
  match min, max? with
  | 0, some 0 => stateSize
  | 0, some 1 => again + stateSize
  | 0, none => if nullable then again + 2 * stateSize + 2 * freeEdgeSize else again
  | min, none => min * once + stateSize + 2 * freeEdgeSize
  | 0, some max => 2 * stateSize + max * again
  | min, some max => min * once + (if max ≤ min then 0 else stateSize + (max - min) * again)

/-- The bytes of a machine for a term. What matches the empty text alone is not
repeated, and takes no place in a row. -/
def size (direction : Direction) : Term → Nat
  | empty => stateSize
  | chars set => setSize direction set
  | look _ => stateSize
  | seq first second =>
    (match first with | empty => 0 | _ => first.size direction) +
      (match second with | empty => 0 | _ => second.size direction)
  | alt first second =>
    match (alt first second).choice? with
    | some set => setSize direction set
    | none =>
      first.size direction + second.size direction +
        (match second with
          | alt .. => freeEdgeSize
          | _ => 2 * stateSize + 2 * freeEdgeSize)
  | iterate min max? body =>
    let once := body.size direction
    if body.isVoid then
      iterationSize once (Nat.min min 1) (some (max?.elim 1 (Nat.min 1))) true
    else iterationSize once min max? body.isNullable
  | group body =>
    match direction with
    | .forward => body.size direction + 2 * stateSize
    | .backward => body.size direction

/-- The bytes that the larger machine for a term needs. -/
def cost (t : Term) : Nat := max (t.size .forward) (t.size .backward)

/-- The greatest cost of a pattern. -/
def maxCost : Nat := 10 * 1024 * 1024

end Term

end Waymark.Pattern
