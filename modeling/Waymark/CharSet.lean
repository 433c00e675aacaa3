/-!
# Waymark.CharSet

Sets of characters as lists of code point ranges.

Design points:

* a set is in *normal form* when its ranges ascend and neither touch nor
  overlap; every operation here returns that form;
* `union` sorts and merges, `complement` lists the gaps, and the other
  operations are written with these two;
* `ofDeltas` reads the compact text in which the Unicode tables are kept.
-/

namespace Waymark

/-- A set of characters: the code points of its ranges, both ends included. -/
structure CharSet where
  /-- The ranges, each with its first and its last code point. -/
  ranges : List (Nat × Nat)
  deriving DecidableEq, Repr, Inhabited

namespace CharSet

/-- The greatest code point. -/
def maxCode : Nat := 0x10ffff

/-- Merge the ranges of a list that ascends by first code point. -/
def merge : List (Nat × Nat) → List (Nat × Nat)
  | [] => []
  | [r] => [r]
  | a :: b :: rest =>
      if b.1 ≤ a.2 + 1 then merge ((a.1, max a.2 b.2) :: rest) else a :: merge (b :: rest)
termination_by l => l.length

/-- The set of some ranges in any order. A range whose ends are reversed is
empty. -/
def ofRanges (ranges : List (Nat × Nat)) : CharSet :=
  ⟨merge ((ranges.filter fun r => r.1 ≤ r.2).mergeSort fun a b => a.1 ≤ b.1)⟩

/-- The set without characters. -/
def empty : CharSet := ⟨[]⟩

/-- The set of all characters. -/
def full : CharSet := ⟨[(0, maxCode)]⟩

/-- The characters from `first` to `last`. -/
def range (first last : Char) : CharSet := ofRanges [(first.toNat, last.toNat)]

/-- The set of one character. -/
def singleton (c : Char) : CharSet := range c c

/-- The set of the characters of a list. -/
def ofChars (cs : List Char) : CharSet := ofRanges (cs.map fun c => (c.toNat, c.toNat))

/-- Whether a code point belongs to the set. -/
def containsCode (s : CharSet) (code : Nat) : Bool :=
  s.ranges.any fun r => r.1 ≤ code && code ≤ r.2

/-- Whether a character belongs to the set. -/
def contains (s : CharSet) (c : Char) : Bool := s.containsCode c.toNat

/-- Whether the set has no character. -/
def isEmpty (s : CharSet) : Bool := s.ranges.isEmpty

/-- The characters of either set. -/
def union (a b : CharSet) : CharSet := ofRanges (a.ranges ++ b.ranges)

/-- The ranges between `next` and the greatest code point that a list in normal
form leaves out. -/
def gaps (next : Nat) : List (Nat × Nat) → List (Nat × Nat)
  | [] => if next ≤ maxCode then [(next, maxCode)] else []
  | r :: rest => if next < r.1 then (next, r.1 - 1) :: gaps (r.2 + 1) rest else gaps (r.2 + 1) rest

/-- The characters that are not in the set. -/
def complement (s : CharSet) : CharSet := ⟨gaps 0 s.ranges⟩

/-- The characters of both sets. -/
def inter (a b : CharSet) : CharSet := (a.complement.union b.complement).complement

/-- The characters of the first set that are not in the second. -/
def diff (a b : CharSet) : CharSet := a.inter b.complement

/-- The characters of exactly one of the sets. -/
def symmDiff (a b : CharSet) : CharSet := (a.union b).diff (a.inter b)

/-- The number of code points. -/
def size (s : CharSet) : Nat := s.ranges.foldl (fun n r => n + (r.2 + 1 - r.1)) 0

/-- The value of a digit in base 36. -/
def digitValue (c : Char) : Nat :=
  if c.toNat < 58 then c.toNat - 48 else c.toNat - 87

/-- The numbers that a text lists in base 36, separated by single blanks or line
ends, when `n` has been read of the first. -/
def numbersFrom (n : Nat) : List Char → List Nat
  | [] => [n]
  | c :: cs =>
    if c = ' ' || c = '\n' then n :: numbersFrom 0 cs
    else numbersFrom (36 * n + digitValue c) cs

/-- The numbers that a text lists in base 36. -/
def numbers (text : String) : List Nat := numbersFrom 0 text.toList

/-- The ranges that pairs of distances describe: how far the range starts after
the end of the one before, and how far its last code point is from its first. -/
def deltaRanges (after : Nat) : List Nat → List (Nat × Nat)
  | gap :: extent :: rest =>
      (after + gap, after + gap + extent) :: deltaRanges (after + gap + extent) rest
  | _ => []

/-- Read a set from its compact form. -/
def ofDeltas (text : String) : CharSet := ⟨deltaRanges 0 (numbers text)⟩

end CharSet

end Waymark
