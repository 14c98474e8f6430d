import Stepboard.Rect
import Stepboard.Screen.Drawing
/-!
# Panes

A pane is a bordered rectangle that shows a window of its content. Its scroll position is kept as
it was asked for, however far outside the content, and clamped when the window is taken; the
content may start at a later line than the first, as a log's window does.
-/

namespace Stepboard

/-- The colour of a border by status. -/
def borderFor (status : String) : Style :=
  if status == "error" then "red" else "cyan"

/-- The styles of lines by number; a later entry for a line overrides an earlier one. -/
abbrev LineStyles := List (Int × Style)

namespace LineStyles

/-- The style of a line. -/
def get (styles : LineStyles) (line : Int) : Style :=
  (styles.reverse.lookup line).getD ""

/-- The entries that hold, by line. -/
def sorted (styles : LineStyles) : List (Int × Style) :=
  let lines := (styles.map Prod.fst).eraseDups.mergeSort
  lines.map fun line => (line, get styles line)

end LineStyles

/-- A pane and its scroll position. -/
structure Pane where
  label : String
  rect : Rect
  row : Int := 0
  column : Int := 0
  content : List String := []
  styles : LineStyles := []
  /-- The number of the first line of the content. -/
  origin : Nat := 0
  title : StyledText
  deriving DecidableEq, Repr

/-- The style of titles and headings. -/
def boldStyle : Style := "bold"

/-- Lines kept below a line that had to be scrolled up to. -/
def followStep : Nat := 5

/-- The part of a line that starts at a column and fits a width. -/
def cutLine (column width : Nat) (line : String) : String :=
  String.ofList ((line.toList.drop column).take width)

namespace Pane

/-- A pane without content. -/
def ofRect (label : String) (rect : Rect) : Pane :=
  { label, rect, title := StyledText.ofString label boldStyle }

/-- The rows inside the border. -/
def innerHeight (p : Pane) : Nat :=
  p.rect.height - 2

/-- The columns inside the border. -/
def innerWidth (p : Pane) : Nat :=
  p.rect.width - 2

def scroll (p : Pane) (delta : Int) : Pane :=
  { p with row := p.row + delta }

def scrollHorizontal (p : Pane) (delta : Int) : Pane :=
  { p with column := p.column + delta }

/-- The number of the first line shown. -/
def visibleStart (p : Pane) : Nat :=
  min (max p.row p.origin).toNat (p.origin + (p.content.length - 1))

/-- The lines shown, cut to the columns shown. -/
def window (p : Pane) : List String :=
  ((p.content.drop (p.visibleStart - p.origin)).take p.innerHeight).map
    (cutLine p.column.toNat p.innerWidth)

/-- Scrolls so that a line is shown, if it is not. -/
def follow (p : Pane) (line : Int) : Pane :=
  let start := p.visibleStart
  let height := p.innerHeight
  if height = 0 then p
  else if line < start then { p with row := line }
  else if start + height ≤ line then
    { p with row := max 0 (line - height + min followStep height) }
  else p

/-- The title of a pane, in brackets if the pane is in focus. -/
def titleText (p : Pane) (focused : Bool) : String :=
  if focused then "[" ++ p.label ++ "]" else p.label

/-- Writes the title. -/
def drawTitle (p : Pane) (focused : Bool) : Pane :=
  { p with title := StyledText.ofString (p.titleText focused) boldStyle }

/-- Appends lines that are numbered from `line` on to a text, each on a line of its own. -/
def appendLines (styles : LineStyles) (t : StyledText) : Nat → List String → StyledText
  | _, [] => t
  | line, s :: rest =>
    appendLines styles ((t.append "\n").append s (styles.get line)) (line + 1) rest

/-- The lines shown as one text. -/
def bodyText (p : Pane) : StyledText :=
  match p.window with
  | [] => {}
  | s :: rest =>
    appendLines p.styles (({} : StyledText).append s (p.styles.get p.visibleStart))
      (p.visibleStart + 1) rest

/-- The pane as it shows, by its title and scroll position. -/
def drawing (p : Pane) : Drawing :=
  .panel
    { title := p.title, titleAlign := "left", border := borderFor "ok", padding := (0, 0),
      height := some p.rect.height, width := some p.rect.width }
    (.text { text := p.bodyText, overflow := some "crop", noWrap := some true })

/-- Writes the title anew and draws the pane. -/
def redraw (p : Pane) (focused : Bool) : Pane × Drawing :=
  let p := p.drawTitle focused
  (p, p.drawing)

/-- Replaces the content. -/
def setContent (p : Pane) (lines : List String) (styles : LineStyles) (origin : Int) : Pane :=
  { p with content := lines, styles, origin := origin.toNat }

/-- Replaces the content and draws the pane. -/
def render (p : Pane) (lines : List String) (focused : Bool) (styles : LineStyles := [])
    (origin : Int := 0) : Pane × Drawing :=
  (p.setContent lines styles origin).redraw focused

end Pane

end Stepboard
