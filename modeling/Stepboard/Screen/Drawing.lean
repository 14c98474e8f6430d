import Stepboard.Screen.Styled
/-!
# Drawings

What a region of the screen shows: a text block, a bordered panel around a drawing, or a drawing
centred in its region. A drawing is handed over as it is; how it comes out in cells is not decided
here.
-/

namespace Stepboard

/-- How a text block is laid out, where that is said at all. -/
structure TextBlock where
  text : StyledText
  justify : Option String := none
  overflow : Option String := none
  noWrap : Option Bool := none
  deriving DecidableEq, Repr

/-- The border of a panel: its title, colour and measures, and the blank rows and columns inside. -/
structure Frame where
  title : StyledText
  titleAlign : String := "center"
  border : Style
  width : Option Int := none
  height : Option Int := none
  padding : Nat × Nat := (0, 1)
  deriving DecidableEq, Repr

/-- What a region of the screen shows. -/
inductive Drawing where
  | text (block : TextBlock)
  | panel (frame : Frame) (body : Drawing)
  | centred (vertical : Option String) (height : Option Int) (body : Drawing)
  deriving Repr

end Stepboard
