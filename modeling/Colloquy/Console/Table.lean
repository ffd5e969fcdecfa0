import Colloquy.Console.Paragraph

/-!
# Tables on the console

A table has a title, columns and rows. Columns are as wide as their content asks for; if that is too
much for the console the widest columns give way. A cell that is wider than its column is broken into
lines.
-/

namespace Colloquy.Console

open Text

structure Column where
  header : String
  alignment : Alignment := .left

/-- A table; its texts may hold markup. -/
structure Table where
  title : String
  columns : List Column
  rows : List (List String) := []

/-- A table that was fitted into a width. -/
structure Layout where
  /-- Lines of the title. -/
  title : List (List Char)
  alignments : List Alignment
  /-- Widths of the columns with a blank on both sides. -/
  widths : List Nat
  /-- Lines of the header, each with the text of every column. -/
  header : List (List (List Char))
  /-- Lines of the rows. -/
  rows : List (List (List Char))

namespace Table

/-- Quotient rounded to the nearest number; a tie goes to the even one. -/
def roundDiv (n d : Nat) : Nat :=
  let q := n / d
  let r := n % d
  if d < 2 * r || (2 * r == d && q % 2 == 1) then q + 1 else q

/-- Takes `total` off the widths that are marked, in equal shares of at most `most` each. -/
def takeOff (total most shares : Nat) : List (Bool × Nat) → List Nat
  | [] => []
  | (marked, width) :: rest =>
    if marked && 0 < shares then
      let share := min most (roundDiv total shares)
      (width - share) :: takeOff (total - share) most (shares - 1) rest
    else width :: takeOff total most shares rest

/-- Number of cells of columns next to each other. -/
def totalWidth (widths : List Nat) : Nat := widths.foldr (· + ·) 0

/-- Narrows the widest columns to the next narrower ones until the widths add up to at most `most`. -/
def collapse (most : Nat) (fuel : Nat) (widths : List Nat) : List Nat :=
  match fuel with
  | 0 => widths
  | fuel + 1 =>
    let excess := totalWidth widths - most
    let widest := widths.foldl max 0
    let second := (widths.filter (· != widest)).foldl max 0
    if excess == 0 || widest == second then widths
    else
      let marked := widths.map fun w => (w == widest, w)
      collapse most fuel
        (takeOff excess (min excess (widest - second)) (marked.countP (·.1)) marked)

def naturalWidth (cs : List Char) : Nat :=
  ((TextMethod.lines false cs).map textWidth).foldl max 0

/-- Blanks around the text of a cell. -/
def padding : Nat := 2

def columnWidths (most : Nat) (columns : List (List (List Char))) : List Nat :=
  let natural := columns.map fun cells => min most ((cells.map naturalWidth).foldl max 0 + padding)
  collapse most (natural.length + 1) natural

/-- Lines of a row, each with the text of every column. Short cells are filled up at their end, or
at their start if `bottom` is set. -/
def rowLines (bottom : Bool) (cells : List (List (List Char))) : List (List (List Char)) :=
  let height := (cells.map List.length).foldl max 1
  (List.range height).map fun i => cells.map fun lines =>
    if bottom then (List.replicate (height - lines.length) [] ++ lines).getD i [] else lines.getD i []

def layout (t : Table) (width : Nat) : Outcome Layout := do
  let columns ← t.columns.zipIdx.mapM fun (column, i) =>
    (column.header :: t.rows.map fun row => row.getD i "").mapM plainText
  let edges := columns.length + 1
  let widths := columnWidths (width - edges) columns
  let alignments := t.columns.map (·.alignment)
  let fit (i : Nat) : List (List (List Char)) :=
    rowLines (i == 0) ((columns.zip (widths.zip alignments)).map fun (cells, width, alignment) =>
      Paragraph.wrap (width - padding) .ellipsis alignment (cells.getD i []))
  let title ← plainText t.title
  return {
    title := Paragraph.wrap (totalWidth widths + edges) .fold .centre title
    alignments, widths
    header := fit 0
    rows := (List.range t.rows.length).flatMap fun i => fit (i + 1) }

end Table

namespace Layout

def aligned (alignment : Alignment) (width : Nat) (cs : List Char) : List Char :=
  let room := width - textWidth cs
  let before := if alignment == .centre then room / 2 else 0
  List.replicate before ' ' ++ cs ++ List.replicate (room - before) ' '

def drawRow (l : Layout) (border : Char) (cells : List (List Char)) : List Char :=
  let shown := (cells.zip (l.widths.zip l.alignments)).map fun (cs, width, alignment) =>
    ' ' :: aligned alignment (width - Table.padding) cs ++ [' ']
  border :: shown.flatMap (· ++ [border])

/-- A border across a table: its line, its left end, its crossings and its right end. -/
def drawBorder (l : Layout) (line left crossing right : Char) : List Char :=
  left :: [crossing].intercalate (l.widths.map fun w => List.replicate w line) ++ [right]

def draw (l : Layout) : List (List Char) :=
  let width := Table.totalWidth l.widths + l.widths.length + 1
  l.title.map (aligned .centre width) ++ [l.drawBorder '━' '┏' '┳' '┓'] ++
    l.header.map (l.drawRow '┃') ++ [l.drawBorder '━' '┡' '╇' '┩'] ++ l.rows.map (l.drawRow '│') ++
    [l.drawBorder '─' '└' '┴' '┘']

end Layout

/-- Something shown on the console. -/
inductive Block where
  | text (lines : List (List Char))
  | table (l : Layout)

namespace Block

def draw : Block → List (List Char)
  | .text ls => ls
  | .table l => l.draw

def ofText (width : Nat) (markup : String) : Outcome Block := do
  return .text (Paragraph.wrap width .fold .left (← plainText markup))

def ofTable (width : Nat) (t : Table) : Outcome Block := do return .table (← t.layout width)

end Block

end Colloquy.Console
