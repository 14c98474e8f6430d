import Stepboard.Screen.Pane
import Stepboard.Text.Lines
import Stepboard.Text.Numeral
/-!
# Fixed parts of the screen

The header, the help line, and the box that lies over the panes while a fault waits to be read.
-/

namespace Stepboard

/-- The keys, in a line. -/
def helpText : String :=
  "s/space: step   tab/shift-tab: focus   up/down: scroll   left/right: instructions   q: quit"

def helpLine : Drawing :=
  .text { text := StyledText.ofString helpText "dim", overflow := some "crop", noWrap := some true }

/-- What is said of a fault without a message. -/
def unnamedFault : String := "simulator fault"

/-- The text of the fault box. -/
def overlayText (message : String) : StyledText :=
  let stripped := Text.strip message
  ((({} : StyledText).append (if stripped.isEmpty then unnamedFault else stripped) boldStyle).append
    "\n\n").append "press any key to continue" "dim"

/-- The length of the longest line of a message. -/
def longestLine (message : String) : Nat :=
  ((Text.splitLines Text.isLineBreak message.toList).map List.length).foldl max 0

/-- The width of the fault box on a screen of a given width. -/
def overlayWidth (message : String) (width : Int) : Int :=
  max 24 (min (width - 4) (longestLine message + 6))

/-- The height of the fault box in a body of a given height. -/
def overlayHeight (message : String) (height : Int) : Int :=
  max 5 (min height ((overlayText message).plain.count '\n' + 5))

/-- The box that shows a fault. -/
def errorOverlay (message : String) (width height : Int) : Drawing :=
  .centred (some "middle") (some height)
    (.panel
      { title := StyledText.ofString "Error" boldStyle, border := borderFor "error",
        width := some (overlayWidth message width), height := some (overlayHeight message height) }
      (.centred (some "middle") none
        (.text { text := overlayText message, justify := some "center" })))

/-- What the header tells. -/
structure Header where
  program : String
  steps : Int
  pc : Int
  instruction : String
  focus : String
  mode : String
  deriving DecidableEq, Repr

namespace Header

/-- The named values of a header, in order. -/
def fields (h : Header) : List (String × String) :=
  [("Program", h.program), ("Steps", Numeral.decimal h.steps), ("PC", "0x" ++ Numeral.hexWord h.pc),
   ("Focus", h.focus), ("Layout", h.mode)]

/-- The rows that a header takes, its border included. -/
def height : Int := 3

/-- Appends a named value. -/
def appendField (t : StyledText) (field : String × String) : StyledText :=
  ((t.append (field.1 ++ ": ")).append field.2 boldStyle).append "   "

/-- The text of a header: its named values, then the current instruction. -/
def text (h : Header) : StyledText :=
  (h.fields.foldl appendField {}).append (Text.strip h.instruction) "reverse"

def drawing (h : Header) : Drawing :=
  .panel
    { title := StyledText.ofString "SPIM Dashboard" boldStyle, border := "cyan",
      height := some height }
    (.text { text := h.text, overflow := some "ellipsis", noWrap := some true })

end Header

end Stepboard
