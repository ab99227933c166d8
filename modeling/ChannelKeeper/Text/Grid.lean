import ChannelKeeper.Text.Chars
import ChannelKeeper.Text.Width

/-!
# Ruled tables

A header and rows of cells in a frame, with a double rule under the header and
none between the rows. A column is as wide as its widest cell and has a blank on
both sides; a cell of several lines makes its row as high.
-/

namespace ChannelKeeper.Text

structure Grid where
  header : List String
  rows : List (List String)
deriving DecidableEq, Repr

namespace Grid

/-- The characters of a rule: its ends, its line and its crossings. -/
structure Rule where
  left : String
  line : Char
  crossing : String
  right : String

def topRule : Rule := ⟨"┌", '─', "┬", "┐"⟩

def headerRule : Rule := ⟨"╞", '═', "╪", "╡"⟩

def bottomRule : Rule := ⟨"└", '─', "┴", "┘"⟩

def cellWidth (cell : String) : Nat := ((splitOn '\n' cell).map width).foldl max 0

def columnWidths (g : Grid) : List Nat :=
  g.header.zipIdx.map fun (title, column) =>
    (g.rows.map fun row => cellWidth (row.getD column "")).foldl max (cellWidth title)

def renderRule (widths : List Nat) (rule : Rule) : String :=
  rule.left ++ join rule.crossing (widths.map fun w => repeated rule.line (w + 2)) ++ rule.right

def padded (columns : Nat) (text : String) : String :=
  " " ++ text ++ repeated ' ' (columns - width text) ++ " "

def renderLine (widths : List Nat) (pieces : List String) : String :=
  "│" ++ join "┆" ((widths.zip pieces).map fun (w, piece) => padded w piece) ++ "│"

/-- The lines of a row, as many as its highest cell has. -/
def renderRow (widths : List Nat) (row : List String) : List String :=
  let cells := row.map (splitOn '\n')
  let height := (cells.map List.length).foldl max 1
  (List.range height).map fun k => renderLine widths (cells.map fun lines => lines.getD k "")

def render (g : Grid) : String :=
  let widths := g.columnWidths
  join "\n" (
    [renderRule widths topRule] ++ renderRow widths g.header ++ [renderRule widths headerRule] ++
    g.rows.flatMap (renderRow widths) ++ [renderRule widths bottomRule])

end Grid

end ChannelKeeper.Text
