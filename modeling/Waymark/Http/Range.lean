import Waymark.Text.Space

/-!
# Waymark.Http.Range

Requests for a part of a file: `bytes=5-9`, `bytes=5-` and `bytes=-3`.

A request that is ill-formed, or asks for nothing that the file has, counts as
none.
-/

namespace Waymark.Http

/-- The greatest number that an offset can be. -/
def maxOffset : Nat := 0xffffffffffffffff

/-- Read a number of up to 64 bits, with a plus sign before it or without. -/
def readNumber? (cs : List Char) : Option Nat :=
  let digits := if cs.head? = some '+' then cs.tail else cs
  let value := digits.foldl (fun n c => 10 * n + (c.toNat - '0'.toNat)) 0
  if digits ≠ [] ∧ digits.all Char.isDigit ∧ value ≤ maxOffset then some value else none

/-- A part of a file, from its first to its last byte. -/
structure ByteRange where
  /-- The offset of the first byte. -/
  first : Nat
  /-- The offset of the last byte. -/
  last : Nat
  deriving DecidableEq, Repr

/-- The part that the two numbers of a request ask for, in a file of `size`
bytes. Without a first number the second counts from the end. -/
def ByteRange.ofBounds? (size : Nat) : (first last : List Char) → Option ByteRange
  | [], [] => none
  | [], last => do
    let count ← readNumber? last
    if count = 0 then none else some ⟨size - count, size - 1⟩
  | first, [] => do some ⟨← readNumber? first, size - 1⟩
  | first, last => do some ⟨← readNumber? first, min (← readNumber? last) (size - 1)⟩

/-- The part that a header asks for, in a file of `size` bytes. -/
def ByteRange.read? (header : String) (size : Nat) : Option ByteRange :=
  let start := "bytes=".toList
  if !start.isPrefixOf header.toList then none
  else
    let value := header.toList.drop start.length
    match value.dropWhile (· ≠ '-') with
    | [] => none
    | _ :: last =>
      if size = 0 then none
      else
        match ofBounds? size (Text.trim (value.takeWhile (· ≠ '-'))) (Text.trim last) with
        | none => none
        | some range =>
          if range.last < range.first ∨ size ≤ range.first then none else some range

end Waymark.Http
