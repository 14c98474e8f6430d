import Stepboard.Log.Record
/-!
# What is written

What a run writes to its two outputs, piece by piece: texts as they are, texts that a console is
handed to print, and the complaints of the log about records that it cannot write down. How a
console prints, and where a complaint comes out and what it looks like, is not settled here.
-/

namespace Stepboard

/-- An output of the process. -/
inductive Channel where
  | output
  | errors
  deriving DecidableEq, Repr

/-- A text for a console to print, with its style, and whether marks in it are obeyed and whether
parts of it may be picked out. -/
structure Printing where
  text : String
  style : String := ""
  markup : Bool := false
  highlight : Bool := false
  deriving DecidableEq, Repr

/-- A piece of what is written. -/
inductive Writing where
  | text (channel : Channel) (s : String)
  | printing (channel : Channel) (p : Printing)
  | complaint (r : Record)
  deriving DecidableEq, Repr

/-- How printings come out on an output, and what of a complaint does. -/
structure Console where
  print : Channel → Printing → String
  complain : Channel → Record → String

/-- What comes out of a piece on an output. -/
def Writing.shown (console : Console) (channel : Channel) : Writing → String
  | text on s => if on = channel then s else ""
  | printing on p => if on = channel then console.print on p else ""
  | complaint r => console.complain channel r

/-- What comes out on an output. -/
def Console.shown (console : Console) (channel : Channel) (written : List Writing) : String :=
  String.join (written.map (·.shown console channel))

end Stepboard
