import Stepboard.Log.Record
import Stepboard.Simulator.Basic
import Stepboard.Text.Blank
import Stepboard.PaneId
/-!
# Guarded steps

A step of one instruction, with every way in which it can come out folded into an outcome. There is
no stepping without a program counter, nor with symbols still undefined; the latter ends the
session.
-/

namespace Stepboard

/-- How a step came out. -/
inductive StepStatus where
  | ok
  | halted
  | fault
  deriving DecidableEq, Repr

namespace StepStatus

def all : List StepStatus :=
  [ok, halted, fault]

def name : StepStatus → String
  | ok => "ok"
  | halted => "halted"
  | fault => "fault"

/-- The status of a name. -/
def ofName (s : String) : Except UnknownName StepStatus :=
  match all.find? (·.name == s) with
  | some status => .ok status
  | none => .error ⟨"StepStatus", s⟩

end StepStatus

/-- How a step came out, at which address, and what there is to say about it. -/
structure StepOutcome where
  status : StepStatus
  address : Int := 0
  message : String := ""
  deriving DecidableEq, Repr

namespace StepOutcome

/-- Whether the session can go on. -/
def continuable (o : StepOutcome) : Bool :=
  o.status != .halted

/-- The fields of an outcome by name. -/
def fields (o : StepOutcome) : List (String × String) :=
  [("status", o.status.name), ("address", "0x" ++ Numeral.hexWord o.address),
   ("message", o.message)]

/-- An outcome on one line. -/
def describe (o : StepOutcome) : String :=
  "\x7b" ++ ", ".intercalate (o.fields.map fun (name, value) =>
    Text.quote name ++ ": " ++ Text.quote value) ++ "\x7d"

end StepOutcome

/-- What a guarded step did: its outcome, the state it left, the step asked of the simulator if any,
and what was noted. -/
structure StepReport (σ : Type) where
  outcome : Except Failure StepOutcome
  world : σ
  calls : List StepCall := []
  notes : List Record := []

/-- The step of one instruction at an address. -/
def singleStep (address : Int) : StepCall :=
  { address, count := 1, trace := false, breakOn := true }

/-- What is noted of a fault in a step. -/
def faultNote (address : Int) (message : String) : Record :=
  ⟨.warning, "dash_core.simulator",
    "fault stepping 0x" ++ Numeral.hexWord address ++ ": " ++ message⟩

namespace Simulator

variable {σ : Type}

/-- Steps the instruction at an address. -/
def stepAt (sim : Simulator σ) (address : Int) (w : σ) : StepReport σ :=
  let calls := [singleStep address]
  match sim.step (singleStep address) w with
  | .error (.fault message) w =>
    { outcome := .ok ⟨.fault, address, message⟩, world := w, calls,
      notes := [faultNote address message] }
  | .error e w => { outcome := .error e.toFailure, world := w, calls }
  | .ok true w => { outcome := .ok { status := .ok, address }, world := w, calls }
  | .ok false w =>
    match sim.currentPc w with
    | .error e w => { outcome := .error e.toFailure, world := w, calls }
    | .ok pc w =>
      { outcome := .ok ⟨.halted, address, "Breakpoint encountered at 0x" ++ Numeral.hexWord pc⟩,
        world := w, calls }

/-- Steps one instruction if there is one to step and no symbol is undefined. -/
def guardedStep (sim : Simulator σ) (w : σ) : StepReport σ :=
  match sim.currentPc w with
  | .error e w => { outcome := .error e.toFailure, world := w }
  | .ok address w =>
    if address = 0 then
      { outcome := .ok ⟨.fault, 0, "no program counter to step from"⟩, world := w }
    else
      match sim.undefinedSymbols w with
      | .error e w => { outcome := .error e.toFailure, world := w }
      | .ok text w =>
        let symbols := Text.strip text
        if symbols.isEmpty then sim.stepAt address w
        else { outcome := .error (.undefined address symbols), world := w }

end Simulator

end Stepboard
