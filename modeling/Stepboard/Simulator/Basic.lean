import Stepboard.Files.Tree
import Stepboard.Memory.Dump
import Stepboard.Memory.Segment
/-!
# Simulators

A simulator of a machine is driven from outside: it is asked to step and asked for its state. Every
question may fail with a fault, and may change the simulator itself, so each is a query on a state
that is handed on. What is worked out from the answers may fail in more ways than a query.
-/

namespace Stepboard

/-- How a question to a simulator fails. -/
inductive QueryError where
  /-- A fault that the simulator reports and survives. -/
  | fault (message : String)
  /-- A file that the simulator cannot use. -/
  | file (e : FileFailure)
  deriving DecidableEq, Repr

/-- A question to a simulator with states in `σ`. -/
abbrev Query (σ α : Type) := EStateM QueryError σ α

/-- The arguments of a step. -/
structure StepCall where
  address : Int
  count : Nat
  trace : Bool
  breakOn : Bool
  deriving DecidableEq, Repr

/-- A simulator with states in `σ`. A step tells whether the program can go on; the segments come
as pairs of bounds, the stack from its top to its pointer. -/
structure Simulator (σ : Type) where
  currentPc : Query σ Int
  step : StepCall → Query σ Bool
  formatRegisters : Bool → Query σ String
  disassemble : Int → Query σ (List String)
  instructionAt : Int → Query σ String
  readWord : Int → Query σ Int
  readByte : Int → Query σ Int
  undefinedSymbols : Query σ String
  dataSegment : Query σ (Int × Int)
  stackSegment : Query σ (Int × Int)
  kernelDataSegment : Query σ (Int × Int)

/-- What can stop the work on a simulator's answers. -/
inductive Failure where
  /-- A fault of the simulator. -/
  | fault (message : String)
  /-- A file that the simulator or the session cannot use. -/
  | file (e : FileFailure)
  /-- Undefined symbols before the instruction at an address. -/
  | undefined (address : Int) (symbols : String)
  | inverted (e : Memory.InvertedSegment)
  | unsupported (e : Memory.UnsupportedBase)
  deriving DecidableEq, Repr

namespace Failure

def message : Failure → String
  | fault message => message
  | file e => e.message
  | undefined address symbols =>
    "undefined symbols before executing 0x" ++ Numeral.hexWord address ++ ":\n" ++ symbols
  | inverted e => e.message
  | unsupported e => e.message

end Failure

/-- What the failure of a question means for the work that asked it. -/
def QueryError.toFailure : QueryError → Failure
  | fault message => .fault message
  | file e => .file e

/-- Work on a simulator's answers. -/
abbrev Reading (σ α : Type) := EStateM Failure σ α

namespace Query

variable {σ α : Type}

/-- A query as part of some work. -/
def lift (q : Query σ α) : Reading σ α := fun s =>
  match q s with
  | .ok a s => .ok a s
  | .error e s => .error e.toFailure s

instance : MonadLift (EStateM QueryError σ) (EStateM Failure σ) := ⟨Query.lift⟩

end Query

namespace Simulator

variable {σ : Type}

/-- The memory of a simulator. -/
def memory (sim : Simulator σ) : Memory.Reader (EStateM Failure σ) where
  readWord address := (sim.readWord address).lift
  readByte address := (sim.readByte address).lift

end Simulator

end Stepboard
