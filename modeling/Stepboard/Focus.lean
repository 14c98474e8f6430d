import Stepboard.PaneId
/-!
# Focus

The pane that scroll keys go to. Only panes take the focus, and it goes round them both ways.
-/

namespace Stepboard

/-- A context that cannot take the focus. -/
structure FocusRefused where
  deriving DecidableEq, Repr

def FocusRefused.message (_ : FocusRefused) : String :=
  "pane cannot take focus: PaneId.INVALID"

/-- The pane in focus. -/
structure Focus where
  current : PaneId := .instructions
  deriving DecidableEq, Repr

namespace Focus

/-- The focus on a context, refused if it is no pane. -/
def on : Context → Except FocusRefused Focus
  | .pane id => .ok ⟨id⟩
  | .invalid => .error {}

/-- Moves the focus a number of places round. -/
def shift (f : Focus) (delta : Int) : Focus :=
  ⟨PaneId.atIndex (f.current.index + delta)⟩

def next (f : Focus) : Focus :=
  f.shift 1

def previous (f : Focus) : Focus :=
  f.shift (-1)

/-- Whether a context is the pane in focus. -/
def isOn (f : Focus) (c : Context) : Bool :=
  c == .pane f.current

end Focus

end Stepboard
