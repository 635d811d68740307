import ResolverHooks.Text.Wrap

/-!
Panels and tables drawn with box characters. Every cell has a space on either side, and all lines of
a box take the same number of terminal cells. The widest columns of a table give way if it is wider
than its room.
-/
namespace ResolverHooks.Text

def repeated (n : Nat) (c : Char) : String := String.ofList (List.replicate n c)

/-- The cells that the longest line takes. -/
def widest (lines : List String) : Nat := (lines.map longestLine).foldl max 0

/-- A line of content between the sides of a panel. -/
def panelLine (cells : Nat) (line : String) : String := "│ " ++ padRight cells line ++ " │"

/-- A panel as wide as its content. -/
def panel (content : List String) : List String :=
  let cells := widest content
  ("╭" ++ repeated (cells + 2) '─' ++ "╮") :: content.map (panelLine cells) ++
    ["╰" ++ repeated (cells + 2) '─' ++ "╯"]

/-- The upper edge of a panel, with a title in its middle. -/
def titledEdge (columns : Nat) (title : String) : String :=
  let label := " " ++ title ++ " "
  let rest := columns - 2 - width label
  "╭" ++ repeated (rest / 2) '─' ++ label ++ repeated (rest - rest / 2) '─' ++ "╮"

/-- The cells inside a panel that takes a whole row of the terminal. -/
def panelRoom (columns : Nat) : Nat := columns - 4

/-- A panel that takes a whole row of the terminal. -/
def widePanel (columns : Nat) (title : String) (content : List String) : List String :=
  titledEdge columns title :: content.map (panelLine (panelRoom columns)) ++
    ["╰" ++ repeated (columns - 2) '─' ++ "╯"]

/-- A column of a table. -/
structure Column where
  header : String
  cells : List String
deriving DecidableEq, Repr, Inhabited

namespace Column

/-- The cells that a column asks for, with a space on either side. -/
def wanted (c : Column) : Nat := widest (c.header :: c.cells) + 2

end Column

/-- A quotient rounded to the nearest number, a half to the even one. -/
def roundedQuotient (n d : Nat) : Nat :=
  let q := n / d
  let r := n % d
  if d < 2 * r || (2 * r = d && q % 2 = 1) then q + 1 else q

/-- Takes an excess off the columns of the largest width, evenly, at most so much off each. -/
def lowerLargest (largest most : Nat) (excess count : Nat) : List Nat → List Nat
  | [] => []
  | w :: ws =>
    if w = largest then
      let part := min most (roundedQuotient excess count)
      (w - part) :: lowerLargest largest most (excess - part) (count - 1) ws
    else w :: lowerLargest largest most excess count ws

/-- Lowers the largest widths to the next smaller ones until all fit. Each round makes two widths
equal or is the last. -/
def levelled (room : Nat) (rounds : Nat) (ws : List Nat) : List Nat :=
  match rounds with
  | 0 => ws
  | rounds + 1 =>
    let excess := ws.sum - room
    let largest := ws.foldl max 0
    let next := (ws.filter (· != largest)).foldl max 0
    if excess = 0 || largest = next then ws
    else levelled room rounds
      (lowerLargest largest (min excess (largest - next)) excess (ws.count largest) ws)

/-- The widths of the columns in a room. -/
def columnWidths (room : Nat) (columns : List Column) : List Nat :=
  levelled room (columns.length + 1) (columns.map fun c => min room c.wanted)

/-- A line between rows, from the strokes of its start, its fill, its junctions and its end. -/
def tableEdge (start : String) (fill : Char) (junction finish : String) (widths : List Nat) :
    String :=
  start ++ junction.intercalate (widths.map (repeated · fill)) ++ finish

/-- The lines of a row; a cell with fewer lines than another is filled up. -/
def tableRow (side : String) (widths : List Nat) (row : List String) : List String :=
  let cells := (row.zip widths).map fun (s, w) => (wrap (w - 2) .ellipsis s, w - 2)
  let height := (cells.map fun c => c.1.length).foldl max 1
  (List.range height).map fun i =>
    side ++ side.intercalate (cells.map fun (lines, w) =>
      " " ++ padRight w ((lines[i]?).getD "") ++ " ") ++ side

/-- The rows of a table, as many as the longest column has cells. -/
def rowsOf (columns : List Column) : List (List String) :=
  (List.range ((columns.map fun c => c.cells.length).foldl max 0)).map fun i =>
    columns.map fun c => (c.cells[i]?).getD ""

/-- A table whose header stands out by heavy strokes. -/
def table (room : Nat) (columns : List Column) : List String :=
  let widths := columnWidths (room - (columns.length + 1)) columns
  tableEdge "┏" '━' "┳" "┓" widths :: tableRow "┃" widths (columns.map Column.header) ++
    tableEdge "┡" '━' "╇" "┩" widths :: (rowsOf columns).flatMap (tableRow "│" widths) ++
    [tableEdge "└" '─' "┴" "┘" widths]

end ResolverHooks.Text
