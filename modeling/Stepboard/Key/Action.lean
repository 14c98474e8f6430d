/-!
# Actions

What a key does. Keys are called by the character they type or, for the others, by a name; a key
without a binding does nothing.
-/

namespace Stepboard

/-- What a key does. -/
inductive Action where
  | step
  | quit
  | focusNext
  | focusPrevious
  | scrollUp
  | scrollDown
  | scrollLeft
  | scrollRight
  | none
  deriving DecidableEq, Repr

namespace Action

def name : Action → String
  | step => "step"
  | quit => "quit"
  | focusNext => "focus_next"
  | focusPrevious => "focus_previous"
  | scrollUp => "scroll_up"
  | scrollDown => "scroll_down"
  | scrollLeft => "scroll_left"
  | scrollRight => "scroll_right"
  | none => "none"

/-- The bound keys. -/
def bindings : List (String × Action) :=
  [("s", step), (" ", step), ("enter", step),
   ("q", quit), ("ctrl-c", quit), ("eof", quit),
   ("tab", focusNext), ("shift-tab", focusPrevious),
   ("up", scrollUp), ("k", scrollUp), ("down", scrollDown), ("j", scrollDown),
   ("left", scrollLeft), ("h", scrollLeft), ("right", scrollRight), ("l", scrollRight)]

/-- What a key does, by its name. -/
def ofKey (key : String) : Action :=
  (bindings.lookup key).getD none

end Action

end Stepboard
