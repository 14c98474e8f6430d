import Stepboard.Text.Numeral
/-!
# Rectangles

The cells of the screen that a pane takes.
-/

namespace Stepboard

/-- The measures of a rectangle one of which is negative. -/
structure NegativeRect where
  y : Int
  x : Int
  height : Int
  width : Int
  deriving DecidableEq, Repr

def NegativeRect.message (e : NegativeRect) : String :=
  "negative pane geometry: PaneGeometry(y=" ++ Numeral.decimal e.y ++ ", x=" ++
    Numeral.decimal e.x ++ ", height=" ++ Numeral.decimal e.height ++ ", width=" ++
    Numeral.decimal e.width ++ ")"

/-- A rectangle of screen cells. -/
structure Rect where
  y : Nat
  x : Nat
  height : Nat
  width : Nat
  deriving DecidableEq, Repr

namespace Rect

/-- The rectangle with given measures, refused if one is negative. -/
def ofInts (y x height width : Int) : Except NegativeRect Rect :=
  if 0 ≤ y ∧ 0 ≤ x ∧ 0 ≤ height ∧ 0 ≤ width then
    .ok ⟨y.toNat, x.toNat, height.toNat, width.toNat⟩
  else
    .error ⟨y, x, height, width⟩

/-- The first row below. -/
def bottom (r : Rect) : Nat :=
  r.y + r.height

/-- The first column to the right. -/
def right (r : Rect) : Nat :=
  r.x + r.width

/-- Whether a cell lies in a rectangle. -/
def Contains (r : Rect) (row column : Nat) : Prop :=
  r.y ≤ row ∧ row < r.bottom ∧ r.x ≤ column ∧ column < r.right

instance (r : Rect) (row column : Nat) : Decidable (r.Contains row column) :=
  inferInstanceAs (Decidable (_ ∧ _ ∧ _ ∧ _))

end Rect

end Stepboard
