import Stepboard.PaneId
import Stepboard.Rect
/-!
# The grid

How the panes share the screen. The width chooses one of three grids; the rows of a grid share the
height between the header and the help line equally, and the panes of a row share its width by
their weights. What division leaves over goes to the last of those that share.
-/

namespace Stepboard

/-- Rows of the header. -/
def headerRows : Nat := 3

/-- Rows of the help line. -/
def helpRows : Nat := 1

/-- How the panes are arranged. -/
inductive GridMode where
  | narrow
  | medium
  | wide
  deriving DecidableEq, Repr

namespace GridMode

/-- The arrangement for a screen width. -/
def ofWidth (width : Int) : GridMode :=
  if width < 100 then narrow
  else if width < 160 then medium
  else wide

def name : GridMode → String
  | narrow => "narrow"
  | medium => "medium"
  | wide => "wide"

/-- The rows of a grid, each pane with its weight. -/
def rows : GridMode → List (List (PaneId × Nat))
  | narrow =>
    [[(.registers, 1), (.instructions, 1)], [(.data, 1), (.stack, 1)], [(.output, 1), (.log, 1)]]
  | medium =>
    [[(.registers, 2), (.instructions, 3)], [(.data, 3), (.stack, 2)], [(.output, 1), (.log, 1)]]
  | wide =>
    [[(.registers, 3), (.instructions, 4), (.data, 4)], [(.stack, 4), (.output, 3), (.log, 4)]]

end GridMode

/-- Shares a total by weights, rounding down; the last share takes the rest. -/
def shares (total : Nat) (weights : List Nat) : List Nat :=
  let whole := weights.foldl (· + ·) 0
  let parts := (weights.map fun w => total * w / whole).dropLast
  parts ++ [total - parts.foldl (· + ·) 0]

/-- Lays panes of given widths side by side. -/
def placeRow (y height : Nat) : Nat → List (PaneId × Nat) → List (PaneId × Rect)
  | _, [] => []
  | x, (id, width) :: rest => (id, ⟨y, x, height, width⟩) :: placeRow y height (x + width) rest

/-- Stacks rows of given heights, the panes of each sharing the width. -/
def placeRows (width : Nat) : Nat → List (List (PaneId × Nat) × Nat) → List (PaneId × Rect)
  | _, [] => []
  | y, (row, height) :: rest =>
    placeRow y height 0 ((row.map Prod.fst).zip (shares width (row.map Prod.snd))) ++
      placeRows width (y + height) rest

/-- The rectangles of the panes, row by row. -/
abbrev Geometry := List (PaneId × Rect)

/-- The rows left for panes on a screen. -/
def bodyHeight (height : Int) : Nat :=
  (height - headerRows - helpRows).toNat

/-- The rectangles of the panes on a screen of a given size. -/
def geometry (width height : Int) : Geometry :=
  let rows := (GridMode.ofWidth width.toNat).rows
  placeRows width.toNat (min headerRows height.toNat)
    (rows.zip (shares (bodyHeight height) (rows.map fun _ => 1)))

/-- The rectangle of a pane; a pane without one takes no cells. -/
def Geometry.rect (g : Geometry) (id : PaneId) : Rect :=
  (g.lookup id).getD ⟨0, 0, 0, 0⟩

end Stepboard
