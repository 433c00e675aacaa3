import Waymark.Markup.Character
import Waymark.Markup.Inline

/-!
# Waymark.Markup.Emphasis

From runs of asterisks and underscores to emphasis.

Design points:

* a run that can close emphasis looks back for the nearest run that can open it;
  what lies between is emphasised, and other runs there are text;
* two marks on both sides make strong emphasis, one makes emphasis; what is left
  of a run goes on.
-/

namespace Waymark.Markup

/-- A run of marks. -/
structure Run where
  /-- The mark. -/
  mark : Char
  /-- The number of marks that are left. -/
  count : Nat
  /-- The number of marks in the source. -/
  length : Nat
  /-- Whether the run can begin emphasis. -/
  opens : Bool
  /-- Whether it can end emphasis. -/
  closes : Bool
  deriving Repr

/-- A part of running text in which emphasis has not been found yet. -/
inductive Piece where
  /-- What needs no further reading. -/
  | done (part : Inline)
  /-- A run of marks. -/
  | run (run : Run)
  deriving Repr

/-- A piece as it stands. -/
def Piece.toInline : Piece → Inline
  | .done part => part
  | .run marks => .text (String.ofList (List.replicate marks.count marks.mark))

/-- The run of a mark of some length between two characters, which are missing at
the ends of the text. A run opens before what is not blank, and closes after what
is not blank; next to punctuation it takes the side that is not. Underscores do
nothing within words. -/
def Run.between (before? after? : Option Char) (mark : Char) (length : Nat) : Run :=
  let blank (c? : Option Char) : Bool := c?.all Text.isSpace
  let marked (c? : Option Char) : Bool := c?.any isMark
  let left := !blank after? && (!marked after? || blank before? || marked before?)
  let right := !blank before? && (!marked before? || blank after? || marked after?)
  if mark = '_' then
    ⟨mark, length, length, left && (!right || marked before?), right && (!left || marked after?)⟩
  else ⟨mark, length, length, left, right⟩

/-- Whether a run can open the emphasis that another one closes. A run that could
do both is held back if the lengths add up to a multiple of three, unless both
are such. -/
def Run.canOpen (opener closer : Run) : Bool :=
  opener.opens && opener.mark = closer.mark &&
    !((closer.opens || opener.closes) && (opener.length + closer.length) % 3 = 0 &&
      closer.length % 3 ≠ 0)

/-- Look back for the run that opens what another one closes: the pieces since, in
the order of the source, the opening run, and the pieces before it, last first. -/
def findOpener (closer : Run) (since : List Piece) : List Piece → Option (List Piece × Run × List Piece)
  | [] => none
  | .run run :: before =>
    if run.canOpen closer then some (since, run, before)
    else findOpener closer (.run run :: since) before
  | piece :: before => findOpener closer (piece :: since) before

/-- Close as much emphasis as a run can: the pieces before it, last first, and the
number of marks that are left. `most` bounds the number of pairs. -/
def closeRun (closer : Run) : (most : Nat) → (before : List Piece) → List Piece × Nat
  | 0, before => (before, closer.count)
  | most + 1, before =>
    if closer.count = 0 then (before, 0)
    else
      match findOpener closer [] before with
      | none => (before, closer.count)
      | some (since, opener, rest) =>
        let content := since.map Piece.toInline
        let used := if 2 ≤ closer.count ∧ 2 ≤ opener.count then 2 else 1
        let part : Inline := if used = 2 then .strong content else .emphasis content
        let left :=
          if used < opener.count then [Piece.run { opener with count := opener.count - used }]
          else []
        closeRun { closer with count := closer.count - used } most (.done part :: left ++ rest)

/-- Find the emphasis in pieces, when those before, last first, have been read. -/
def emphasizeFrom (before : List Piece) : List Piece → List Inline
  | [] => before.reverse.map Piece.toInline
  | .run run :: rest =>
    if run.closes then
      let (before, left) := closeRun run run.count before
      let remains := { run with count := left }
      if left = 0 then emphasizeFrom before rest
      else if run.opens then emphasizeFrom (.run remains :: before) rest
      else emphasizeFrom (.done (Piece.run remains).toInline :: before) rest
    else if run.opens then emphasizeFrom (.run run :: before) rest
    else emphasizeFrom (.done (Piece.run run).toInline :: before) rest
  | piece :: rest => emphasizeFrom (piece :: before) rest

/-- Find the emphasis in pieces. -/
def emphasize (pieces : List Piece) : List Inline := emphasizeFrom [] pieces

end Waymark.Markup
