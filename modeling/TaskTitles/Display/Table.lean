import TaskTitles.Display.Layout

/-!
# Tables

A table of two columns in a frame: short labels on the right of the first column, texts in the
second.  A column is as wide as its widest cell, and the second one gives way where the table
would become too wide.  Labels are not broken, and texts are broken inside their cells.
-/

namespace TaskTitles.Display

open Text

/-- The cells of a table's frame: two edges and the line between the columns. -/
def frameCells : Nat := 3

def gap : Text := " "

/-- The cells that a text would like to have: those of its longest line. -/
def wishedCells (t : Text) : Nat := ((Text.lines (withoutDropped t)).map cells).foldl max 0

def columnWidth (limit : Nat) (column : List Text) : Nat :=
  (column.map fun t => min limit (wishedCells t + cells gap)).foldl max 0

/-- The lines of a cell in a column, where `draw` knows them for the width without the gap.  Without
    room for anything but the gap there are none. -/
def cellLines (column : Nat) (draw : Nat → List Text) : List Text :=
  if column ≤ cells gap then [] else draw (column - cells gap)

def labelLines (column : Nat) (t : Text) : List Text :=
  cellLines column fun width =>
    (rawLines t).map fun line =>
      fillLeft width (abridge width (stripEnd (trimEnd width line))) ++ gap

def textLines (column : Nat) (t : Text) : List Text :=
  cellLines column fun width =>
    (layout width .abridge t).map fun line => gap ++ fillRight width line

def toHeight (height column : Nat) (lines : List Text) : List Text :=
  lines ++ List.replicate (height - lines.length) (List.replicate column ' ')

def rowLines (stroke : Char) (labelColumn textColumn : Nat) (row : Text × Text) : List Text :=
  let labels := labelLines labelColumn row.1
  let texts := textLines textColumn row.2
  let height := max labels.length texts.length
  List.zipWith (fun label text => stroke :: label ++ [stroke] ++ text ++ [stroke])
    (toHeight height labelColumn labels) (toHeight height textColumn texts)

def ruleLine (left bar middle right : Char) (labelColumn textColumn : Nat) : Text :=
  left :: List.replicate labelColumn bar ++ [middle] ++ List.replicate textColumn bar ++ [right]

/-- The lines of a table of at most `width` cells under two headings. -/
def table (width : Nat) (headings : Text × Text) (rows : List (Text × Text)) : List Text :=
  let all := headings :: rows
  let limit := width - frameCells
  let labelColumn := columnWidth limit (all.map (·.1))
  let textColumn := min (columnWidth limit (all.map (·.2))) (limit - labelColumn)
  [ruleLine '┏' '━' '┳' '┓' labelColumn textColumn] ++ rowLines '┃' labelColumn textColumn headings
    ++ [ruleLine '┡' '━' '╇' '┩' labelColumn textColumn]
    ++ rows.flatMap (rowLines '│' labelColumn textColumn)
    ++ [ruleLine '└' '─' '┴' '┘' labelColumn textColumn]

end TaskTitles.Display
