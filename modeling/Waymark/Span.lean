/-!
# Waymark.Span

Ranges of a source text, and the measure in which they are given.

Offsets count the bytes of the text's UTF-8 form, so a span can be handed to any
tool that reads the same file.
-/

namespace Waymark

/-- The number of bytes that a character sequence takes in UTF-8. -/
def byteLength : List Char → Nat
  | [] => 0
  | c :: cs => c.utf8Size + byteLength cs

@[simp] theorem byteLength_append (xs ys : List Char) :
    byteLength (xs ++ ys) = byteLength xs + byteLength ys := by
  induction xs with
  | nil => simp [byteLength]
  | cons c cs ih => simp [byteLength, ih, Nat.add_assoc]

/-- A range of bytes of a source: `start` belongs to it and `stop` does not. -/
structure Span where
  /-- Offset of the first byte. -/
  start : Nat
  /-- Offset just past the last byte. -/
  stop : Nat
  deriving DecidableEq, Repr, Inhabited

/-- The smallest span that covers both. -/
def Span.cover (a b : Span) : Span :=
  ⟨min a.start b.start, max a.stop b.stop⟩

end Waymark
