import Stepboard.Screen.Pane
import Stepboard.Simulator.Basic
import Stepboard.Text.Lines
/-!
# Pane contents

What the simulator's state looks like in the panes: the registers, the listing with the current
instruction marked, and the dumps of the data and stack segments. A snapshot asks for all of them
before anything is shown.
-/

namespace Stepboard

/-- The content of a pane, and the line to keep in view if there is one. -/
structure Content where
  lines : List String := []
  styles : LineStyles := []
  focusLine : Option Nat := none
  deriving DecidableEq, Repr

namespace Content

/-- A text as content. -/
def ofText (s : String) : Content :=
  { lines := Text.textLines s }

/-- Adds a block of lines under a heading, after a blank line unless it is the first. -/
def addBlock (c : Content) (block : List String) : Content :=
  let lines := if c.lines.isEmpty then [] else c.lines ++ [""]
  { c with lines := lines ++ block, styles := c.styles ++ [((lines.length : Int), boldStyle)] }

/-- Blocks of lines, the first line of each a heading. -/
def ofBlocks (blocks : List (List String)) : Content :=
  blocks.foldl addBlock {}

end Content

namespace Listing

/-- The text that marks the end of a program. -/
def sentinel : List Char := "<none>".toList

/-- Whether a text holds another. -/
def holds (part : List Char) : List Char → Bool
  | [] => part.isEmpty
  | c :: cs => part.isPrefixOf (c :: cs) || holds part cs

/-- The lines of a disassembly up to the end of the program. -/
def ofDisassembly (lines : List String) : List String :=
  (lines.takeWhile fun line => !holds sentinel line.toList).map Text.listingLine

/-- The first line that shows an instruction. -/
def locate (lines : List String) (instruction : String) : Option Nat :=
  let wanted := Text.strip (Text.listingLine instruction)
  if wanted.isEmpty then none else lines.findIdx? fun line => Text.strip line == wanted

/-- The style of the current instruction. -/
def currentStyle : Style := "reverse"

/-- A listing with a line marked. -/
def content (lines : List String) (marked : Option Nat) : Content :=
  { lines, styles := (marked.map fun i => ((i : Int), currentStyle)).toList, focusLine := marked }

end Listing

/-- How the simulator's state is shown. -/
structure ViewOptions where
  hexRegisters : Bool := true
  dataRadix : Option Int := some 16
  stackRadix : Option Int := some 16
  deriving DecidableEq, Repr

/-- The state of the simulator as the panes show it. -/
structure Snapshot where
  registers : Content
  instructions : Content
  data : Content
  stack : Content
  pc : Int
  instruction : String
  deriving DecidableEq, Repr

namespace Simulator

variable {σ : Type} (sim : Simulator σ)

/-- The listing of the program from an address on. -/
def listing (start : Int) : Reading σ (List String) := do
  let lines ← sim.disassemble start
  pure (Listing.ofDisassembly lines)

/-- The listing of the program from the current instruction on. -/
def currentListing : Reading σ (List String) := do
  let pc ← sim.currentPc
  sim.listing pc

/-- The registers, in hexadecimal or decimal. -/
def registersContent (hex : Bool) : Reading σ Content := do
  let text ← sim.formatRegisters hex
  pure (Content.ofText text)

/-- The text of the current instruction; there is none at address zero. -/
def instructionText (pc : Int) : Reading σ String :=
  if pc = 0 then pure "" else sim.instructionAt pc

/-- A listing with the current instruction marked. -/
def listingContent (lines : List String) : Reading σ Content := do
  let pc ← sim.currentPc
  let text ← sim.instructionText pc
  pure (Listing.content lines (if pc = 0 then none else Listing.locate lines text))

/-- A segment, refused if its bounds are in the wrong order. -/
def segment (label : String) (low high : Int) : Reading σ Memory.Segment :=
  match Memory.Segment.ofBounds label low high with
  | .ok s => pure s
  | .error e => throw (.inverted e)

/-- The data segments of the program and of the kernel. -/
def dataSegments : Reading σ (List Memory.Segment) := do
  let user ← sim.dataSegment
  let kernel ← sim.kernelDataSegment
  let userSegment ← segment "User data segment" user.1 user.2
  let kernelSegment ← segment "Kernel data segment" kernel.1 kernel.2
  pure [userSegment, kernelSegment]

/-- The segment between the word of the stack pointer and the top of the stack. -/
def stackSegments : Reading σ (List Memory.Segment) := do
  let (top, pointer) ← sim.stackSegment
  let low := pointer - pointer % Memory.wordSize
  let s ← segment "User Stack" (min low top) (max low top)
  pure [s]

/-- The base of a radix, refused if words cannot be written in it. -/
def base (radix : Option Int) : Reading σ Memory.Base :=
  match Memory.Base.ofRadix radix with
  | .ok b => pure b
  | .error e => throw (.unsupported e)

/-- The headed dumps of segments. -/
def dumpBlocks (radix : Option Int) : List Memory.Segment → Reading σ (List (List String))
  | [] => pure []
  | s :: rest => do
    let b ← base radix
    let lines ← Memory.formatMemory sim.memory s.low s.high b
    let blocks ← dumpBlocks radix rest
    pure ((s.heading :: lines) :: blocks)

/-- The dump of segments. -/
def dumpContent (segments : List Memory.Segment) (radix : Option Int) : Reading σ Content := do
  let blocks ← sim.dumpBlocks radix segments
  pure (Content.ofBlocks blocks)

/-- The dump of the data segments. -/
def dataContent (radix : Option Int) : Reading σ Content := do
  let segments ← sim.dataSegments
  sim.dumpContent segments radix

/-- The dump of the stack. -/
def stackContent (radix : Option Int) : Reading σ Content := do
  let segments ← sim.stackSegments
  sim.dumpContent segments radix

/-- All that the panes show of the simulator's state, given the listing. -/
def snapshot (options : ViewOptions) (lines : List String) : Reading σ Snapshot := do
  let registers ← sim.registersContent options.hexRegisters
  let instructions ← sim.listingContent lines
  let data ← sim.dataContent options.dataRadix
  let stack ← sim.stackContent options.stackRadix
  let pc ← sim.currentPc
  let instruction ← sim.instructionText pc
  pure { registers, instructions, data, stack, pc, instruction }

end Simulator

end Stepboard
