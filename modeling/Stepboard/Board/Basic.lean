import Stepboard.Board.Content
import Stepboard.Focus
import Stepboard.Grid
import Stepboard.Key.Action
import Stepboard.Layout
import Stepboard.Log.Stream
import Stepboard.Screen.Panels
/-!
# The board

The panes with their focus and scroll positions, and what the header and the fault box tell. The
board holds what was last shown and knows nothing of where it came from: snapshots and log files are
handed to it.
-/

namespace Stepboard

/-- The log files of the simulator: what the program printed, and the simulator's own messages. -/
inductive LogId where
  | output
  | messages
  deriving DecidableEq, Repr

namespace LogId

/-- The pane of a log. -/
def pane : LogId → PaneId
  | output => .output
  | messages => .log

end LogId

/-- Columns that a horizontal scroll key moves. -/
def columnStep : Int := 4

/-- What the screen shows and where it is scrolled to. -/
structure Board where
  program : String
  width : Int
  height : Int
  options : ViewOptions
  panes : PaneId → Pane
  focus : Focus := {}
  streams : LogId → LogStream := fun _ => {}
  listing : List String := []
  steps : Nat := 0
  pc : Int := 0
  instruction : String := ""
  overlay : Option String := none
  exitMessage : String := ""
  heldPanes : List PaneId := PaneId.all
  released : Bool := false

namespace Board

/-- A board without content. -/
def blank (program : String) (width height : Int) (options : ViewOptions) : Board :=
  let places := geometry width height
  { program, width, height, options, panes := fun id => Pane.ofRect id.label (places.rect id) }

/-- The arrangement of the panes. -/
def mode (b : Board) : GridMode :=
  GridMode.ofWidth b.width

/-- Changes one pane. -/
def modifyPane (b : Board) (id : PaneId) (f : Pane → Pane) : Board :=
  { b with panes := fun i => if i = id then f (b.panes i) else b.panes i }

/-- Whether a pane is in focus. -/
def isFocused (b : Board) (id : PaneId) : Bool :=
  b.focus.isOn (.pane id)

/-- Shows content in a pane, and scrolls to the line to keep in view. -/
def showContent (b : Board) (id : PaneId) (c : Content) : Board :=
  b.modifyPane id fun p =>
    let p := (p.render c.lines (b.isFocused id) c.styles).1
    match c.focusLine with
    | some line => p.follow line
    | none => p

/-- Shows the state of the simulator. -/
def showSnapshot (b : Board) (s : Snapshot) : Board :=
  let b := (b.showContent .registers s.registers).showContent .instructions s.instructions
  let b := (b.showContent .data s.data).showContent .stack s.stack
  { b with pc := s.pc, instruction := s.instruction }

/-- Forgets all lines of the log files. -/
def resetStreams (b : Board) : Board :=
  { b with streams := fun id => (b.streams id).reset }

/-- Shows the lines of a log file that a pane is scrolled to. A pane that showed the last known line
is first scrolled to the end of the lines that have come. -/
def showLog (b : Board) (id : LogId) (file : LogFile) : Board :=
  let pane := b.panes id.pane
  let stream := b.streams id
  let atTail : Bool := stream.offset ≤ stream.clamp pane.row + pane.innerHeight
  let (fresh, stream) := stream.poll file
  let row : Int :=
    if fresh != 0 && atTail then (stream.offset - pane.innerHeight : Nat) else pane.row
  let (origin, lines) := stream.window file row pane.innerHeight
  let b := b.modifyPane id.pane fun p =>
    (Pane.render { p with row } lines (b.isFocused id.pane) [] origin).1
  { b with streams := fun i => if i = id then stream else b.streams i }

/-- Lays the fault box over the panes. -/
def showFault (b : Board) (message : String) : Board :=
  { b with overlay := some (if message.isEmpty then unnamedFault else message) }

/-- Takes the fault box away. -/
def dismiss (b : Board) : Board :=
  { b with overlay := none }

/-- Gives the panes up, so that none is held any more. -/
def release (b : Board) : Board :=
  { b with heldPanes := [], released := true }

/-- Does what a key does to the board alone. -/
def look (b : Board) : Action → Board
  | .focusNext => { b with focus := b.focus.next }
  | .focusPrevious => { b with focus := b.focus.previous }
  | .scrollUp => b.modifyPane b.focus.current (·.scroll (-1))
  | .scrollDown => b.modifyPane b.focus.current (·.scroll 1)
  | .scrollLeft => b.modifyPane .instructions (·.scrollHorizontal (-columnStep))
  | .scrollRight => b.modifyPane .instructions (·.scrollHorizontal columnStep)
  | .step | .quit | .none => b

/-- What the header tells. -/
def header (b : Board) : Header :=
  { program := b.program, steps := b.steps, pc := b.pc, instruction := b.instruction,
    focus := b.focus.current.label, mode := b.mode.name }

/-- The panes drawn in their places. -/
def placedPanes (b : Board) : List (Placed Drawing) :=
  (geometry b.width b.height).map fun (id, rect) => ⟨id.name, rect, (b.panes id).drawing⟩

/-- Writes the titles of all panes anew, unless the fault box covers them. -/
def drawTitles (b : Board) : Board :=
  match b.overlay with
  | some _ => b
  | none => { b with panes := fun id => (b.panes id).drawTitle (b.isFocused id) }

/-- What lies between the header and the help line: the panes, or the fault box. -/
def body (b : Board) : Layout Drawing :=
  match b.overlay with
  | some message =>
    .leaf "body" none (errorOverlay message b.width (max 0 (b.height - headerRows - helpRows)))
  | none => Placed.body b.placedPanes

/-- The whole screen. -/
def screen (b : Board) : Layout Drawing :=
  .split "root" none .column
    [.leaf "header" (some headerRows) b.header.drawing, b.body,
     .leaf "help" (some helpRows) helpLine]

/-- Draws the screen, and the titles with it. -/
def compose (b : Board) : Board × Layout Drawing :=
  let b := b.drawTitles
  (b, b.screen)

end Board

end Stepboard
