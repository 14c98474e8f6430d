/-!
# Terminal mode

While keys are read one at a time the terminal neither edits lines, nor echoes, nor turns keys into
signals, and a read returns at the first byte. Entering that mode keeps the attributes that held
before, and leaving it puts them back; leaving without having entered does nothing.
-/

namespace Stepboard

/-- The attributes of a terminal. -/
structure TerminalAttributes where
  inputModes : Int
  outputModes : Int
  controlModes : Int
  localModes : Int
  inputSpeed : Int
  outputSpeed : Int
  characters : List Int
  deriving DecidableEq, Repr

namespace TerminalAttributes

/-- The bits of the local modes that make keys signals, edit lines, and echo. -/
def signalsBit : Nat := 0
def canonicalBit : Nat := 1
def echoBit : Nat := 3

/-- The places of the read timeout and of the least read among control characters. -/
def timeoutIndex : Nat := 5
def minimumIndex : Nat := 6

/-- Whether a bit of a two's complement number is set. -/
def testBit (n : Int) (bit : Nat) : Bool :=
  n / Int.pow 2 bit % 2 = 1

/-- Clears a bit of a two's complement number. -/
def clearBit (n : Int) (bit : Nat) : Int :=
  if testBit n bit then n - Int.pow 2 bit else n

/-- The attributes for reading keys one at a time. -/
def raw (a : TerminalAttributes) : TerminalAttributes :=
  { a with
    localModes := clearBit (clearBit (clearBit a.localModes canonicalBit) echoBit) signalsBit
    characters := (a.characters.set minimumIndex 1).set timeoutIndex 0 }

end TerminalAttributes

/-- A terminal: the attributes in force, those that changes replaced, oldest first and each as it
stood when it was replaced, and the attributes kept to be put back. -/
structure Terminal where
  attributes : TerminalAttributes
  replaced : List TerminalAttributes := []
  saved : Option TerminalAttributes := none
  deriving DecidableEq, Repr

namespace Terminal

/-- The attributes that changes have put in force so far, oldest first. -/
def changes (t : Terminal) : List TerminalAttributes :=
  (t.replaced ++ [t.attributes]).tail

/-- Changes the attributes. -/
def set (t : Terminal) (a : TerminalAttributes) : Terminal :=
  { t with attributes := a, replaced := t.replaced ++ [t.attributes] }

/-- Keeps the attributes and goes over to reading keys one at a time. -/
def enter (t : Terminal) : Terminal :=
  { t with saved := some t.attributes }.set t.attributes.raw

/-- Puts the kept attributes back. -/
def leave (t : Terminal) : Terminal :=
  match t.saved with
  | some a => { t.set a with saved := none }
  | none => t

/-- Changes the local modes from outside, where the attributes in force stand. -/
def disturb (t : Terminal) (modes : Int) : Terminal :=
  { t with attributes := { t.attributes with localModes := modes } }

end Terminal

end Stepboard
