import Waymark.Text.Line
import Waymark.Unicode.Width

/-!
# Waymark.Report

Reports that show a stretch of a source with a note under it.

Design points:

* a report is a list of rows; each has a margin, with the line number or
  without, and its contents;
* a stretch within a line is underlined, and the note hangs on its middle; a
  stretch of several lines is drawn as a bracket at the left, of which only the
  first and the last line are shown;
* what is drawn under a line follows the widths of its characters.
-/

namespace Waymark

open Text

/-- What a report says. -/
structure Report where
  /-- What is wrong. -/
  title : String
  /-- Where it is. -/
  span : Span
  /-- What to say about that place. -/
  note : String

namespace Report

/-! ### Characters in columns -/

/-- The number of columns of the character of a line that `position` characters
precede. A tab leads to the next multiple of four. -/
def columnsAt (position : Nat) (c : Char) : Nat :=
  if c = '\t' then 4 - position % 4
  else if isSpace c then 1
  else Unicode.width c

/-- A line as shown: every blank takes its columns. -/
def shownLine (line : List Char) : String :=
  String.join <| (visible line).zipIdx.map fun (c, position) =>
    if isSpace c then String.ofList (List.replicate (columnsAt position c) ' ') else c.toString

/-- The columns of the first characters of a line. Where the line shows no
character, one column is counted. -/
def columnsOf (line : List Char) (count : Nat) : List Nat :=
  let shown := (visible line).zipIdx.map fun (c, position) => columnsAt position c
  (shown ++ List.replicate (count - shown.length) 1).take count

/-- Fill some columns: `first` stands in the first, `next` in the others. -/
def fill (first next : Char) : (columns : Nat) → String
  | 0 => ""
  | columns + 1 => String.ofList (first :: List.replicate columns next)

/-- A row under a line: `mark` tells for each position which character stands in
its first column and which in the others. -/
def rowUnder (line : List Char) (count : Nat) (mark : Nat → Char × Char) : String :=
  String.join <| (columnsOf line count).zipIdx.map fun (columns, position) =>
    fill (mark position).1 (mark position).2 columns

/-! ### Rows -/

/-- The margin of a line of a number. -/
def numberMargin (width number : Nat) : String :=
  let digits := toString number
  " " ++ String.ofList (List.replicate (width - digits.length) ' ') ++ digits ++ " │ "

/-- A margin without number; `bar` separates it from the contents. -/
def plainMargin (width : Nat) (bar : Char) : String :=
  String.ofList (List.replicate (width + 2) ' ') ++ bar.toString ++ " "

/-- The rows for a stretch of one line from the column `start` to before the
column `stop`. -/
def inlineRows (width : Nat) (number : Nat) (line : List Char) (start stop : Nat)
    (note : String) : List String :=
  let middle := (start + stop) / 2
  let underlined (position : Nat) : Bool := start ≤ position && position < stop
  let under := rowUnder line (stop + 2) fun position =>
    if position = middle then if underlined position then ('┬', '─') else ('│', ' ')
    else if underlined position then ('─', '─')
    else (' ', ' ')
  let hook := rowUnder line (stop + 2) fun position =>
    if position = middle then ('╰', '─') else if middle < position then ('─', '─') else (' ', ' ')
  [ numberMargin width number ++ shownLine line,
    plainMargin width '│' ++ under,
    plainMargin width '│' ++ hook ++ " " ++ note ]

/-- The rows for a stretch from one line to a later one. -/
def bracketRows (width : Nat) (first last : Nat × List Char) (note : String) : List String :=
  let count := last.2.length + 2
  [numberMargin width first.1 ++ "╭─▶ " ++ shownLine first.2] ++
    (if first.1 + 1 < last.1 then [plainMargin width '┆' ++ "┆   "] else []) ++
    [ numberMargin width last.1 ++ "├─▶ " ++ shownLine last.2,
      plainMargin width '│' ++ "│   " ++ rowUnder last.2 count fun _ => (' ', ' '),
      plainMargin width '│' ++ "╰───" ++ (rowUnder last.2 count fun _ => ('─', '─')) ++ " " ++
        note ]

/-- The rows between the place and the end of a report. -/
def sourceRows (report : Report) (source : String) (width : Nat) (first last : LinePlace) :
    List String :=
  let lineAt (i : Nat) : List Char := ((linesOf source)[i]?).getD []
  if first.line = last.line then
    inlineRows width (first.line + 1) (lineAt first.line) first.column last.column report.note
  else
    bracketRows width (first.line + 1, lineAt first.line) (last.line + 1, lineAt last.line)
      report.note

/-- The place after the last character of a span. -/
def lastPlace (source : String) (span : Span) : LinePlace :=
  if span.start < span.stop then
    let place := placeOf source (span.stop - 1)
    let line := ((linesOf source)[place.line]?).getD []
    let before := byteLength ((linesOf source).take place.line).flatten
    { place with column := charsWithin (span.stop - before) line }
  else placeOf source span.start

/-- The report on a source. -/
def draw (report : Report) (source : String) : String :=
  let first := placeOf source report.span.start
  let last := lastPlace source report.span
  let width := (toString (last.line + 1)).length
  let blank := String.ofList (List.replicate (width + 2) ' ')
  let rows :=
    [ s!"Error: {report.title}",
      s!"{blank}╭─[ <unknown>:{first.line + 1}:{first.column + 1} ]",
      s!"{blank}│" ] ++
    report.sourceRows source width first last ++
    [String.ofList (List.replicate (width + 2) '─') ++ "╯"]
  String.join (rows.map (· ++ "\n"))

end Report

end Waymark
