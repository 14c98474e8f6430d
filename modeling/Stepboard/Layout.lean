import Stepboard.Rect
import Stepboard.Text.Numeral
/-!
# Layout trees

A screen as nested splits. The body of the screen is built from placed rectangles: rectangles with
one top edge form a row as high as its leftmost member, the rows go down the screen by their top
edges, and the members of a row go across it by their left edges.
-/

namespace Stepboard

/-- The way a region is split. -/
inductive Direction where
  | row
  | column
  deriving DecidableEq, Repr

def Direction.name : Direction → String
  | row => "row"
  | column => "column"

/-- A named region of the screen that shows something or is split. A region without a size takes
what is left. -/
inductive Layout (α : Type) where
  | leaf (name : String) (size : Option Nat) (content : α)
  | split (name : String) (size : Option Nat) (direction : Direction) (children : List (Layout α))

namespace Layout

variable {α : Type}

def name : Layout α → String
  | leaf name _ _ => name
  | split name _ _ _ => name

def size : Layout α → Option Nat
  | leaf _ size _ => size
  | split _ size _ _ => size

def children : Layout α → List (Layout α)
  | leaf _ _ _ => []
  | split _ _ _ children => children

end Layout

/-- Something to show, with its name and its rectangle. -/
structure Placed (α : Type) where
  name : String
  rect : Rect
  content : α

namespace Placed

variable {α : Type}

/-- Places a thing. A name that is placed already keeps its turn and gets the new rectangle. -/
def insert (ps : List (Placed α)) (p : Placed α) : List (Placed α) :=
  if ps.any (·.name == p.name) then ps.map fun q => if q.name == p.name then p else q
  else ps ++ [p]

/-- The region of a placed thing within its row. -/
def region (p : Placed α) : Layout α :=
  .leaf p.name (some p.rect.width) p.content

/-- The members of the row with a given top edge, from left to right. -/
def rowMembers (ps : List (Placed α)) (y : Nat) : List (Placed α) :=
  (ps.filter (·.rect.y == y)).mergeSort fun p q => p.rect.x ≤ q.rect.x

/-- The top edges of the rows, from top to bottom. -/
def rowTops (ps : List (Placed α)) : List Nat :=
  (ps.map (·.rect.y)).eraseDups.mergeSort

/-- The row with a given top edge. -/
def row (ps : List (Placed α)) (y : Nat) : Layout α :=
  let members := rowMembers ps y
  .split ("row-" ++ Numeral.decimal y) (members.head?.map (·.rect.height)) .row
    (members.map region)

/-- The body of the screen. -/
def body (ps : List (Placed α)) : Layout α :=
  .split "body" none .column ((rowTops ps).map (row ps))

end Placed

end Stepboard
