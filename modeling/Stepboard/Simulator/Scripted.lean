import Stepboard.Files.Tree
import Stepboard.Session
/-!
# A scripted simulator

A machine given by tables, whose steps follow a script: each step may change the tables, take up
another script, write to the log files, fail, move the program counter, or report that the program
cannot go on. It shows how a simulator answers and lets sessions be tried out without a real one.
-/

namespace Stepboard.Scripted

/-- The questions that can be made to fail. -/
inductive Method where
  | currentPc
  | formatRegisters
  | disassemble
  | instructionAt
  | undefinedSymbols
  | dataSegment
  | stackSegment
  | kernelDataSegment
  deriving DecidableEq, Repr

/-- The tables of a machine. Of several entries for an address the last holds. -/
structure Machine where
  pc : Int := 0x400000
  /-- The address of the first line of the program. -/
  entry : Int := 0x400000
  program : List String := []
  tail : List String := ["<none>"]
  instructions : List (Int × String) := []
  registersHex : String := ""
  registersDecimal : String := ""
  undefined : String := ""
  words : List (Int × Int) := []
  bytes : List (Int × Int) := []
  fill : Int := 0
  faultWords : List (Int × String) := []
  faultBytes : List (Int × String) := []
  data : Int × Int := (0x10010000, 0x10010010)
  kernel : Int × Int := (0x90000000, 0x90000010)
  stack : Int × Int := (0x80000000, 0x7FFFFFF0)
  faults : List (Method × String) := []

/-- What a step does, in this order: it adds words, changes the tables, writes to the two log files,
and then fails, or moves on and tells whether the program can go on. -/
structure Event where
  poke : List (Int × Int) := []
  change : Machine → Machine := id
  /-- The script that is followed from the next step on, if it is another. -/
  script : Option (List Event) := none
  output : Option String := none
  messages : Option String := none
  fault : Option String := none
  pc : Option Int := none
  halt : Bool := false

/-- The event that only moves on, which a script ends with for ever. -/
instance : Inhabited Event := ⟨{}⟩

/-- A machine with its script, the steps asked of it so far, and the files it writes to. -/
structure Bench where
  machine : Machine := {}
  events : List Event := []
  calls : List StepCall := []
  files : Files
  outputLog : Path
  messageLog : Path

namespace Machine

/-- The last entry of a table for a key. -/
def find? {α β : Type} [BEq α] (table : List (α × β)) (key : α) : Option β :=
  table.reverse.lookup key

/-- The word at an address. -/
def word (m : Machine) (address : Int) : Int :=
  (find? m.words address).getD m.fill

/-- The byte at an address, by its own table or out of its word. -/
def byte (m : Machine) (address : Int) : Int :=
  match find? m.bytes address with
  | some value => value
  | none => m.word (address - address % 4) / Int.pow 256 (address % 4).toNat % 256

/-- The place of an address in the program. -/
def line (m : Machine) (address : Int) : Int :=
  (address - m.entry) / 4

/-- The program from an address on, and what follows it. -/
def listing (m : Machine) (start : Int) : List String :=
  m.program.drop (m.line start).toNat ++ m.tail

/-- The text of the instruction at an address. -/
def instruction (m : Machine) (address : Int) : String :=
  match find? m.instructions address with
  | some text => text
  | none => if m.line address < 0 then "" else m.program[(m.line address).toNat]?.getD ""

/-- Puts a text in place of every mark in another. -/
def fillIn (mark value : List Char) : List Char → Nat → List Char
  | [], _ => []
  | _ :: cs, skip + 1 => fillIn mark value cs skip
  | c :: cs, 0 =>
    if mark.isPrefixOf (c :: cs) then value ++ fillIn mark value cs (mark.length - 1)
    else c :: fillIn mark value cs 0

/-- The mark that stands for the program counter in the text of the registers. -/
def pcMark : List Char := "@PC@".toList

/-- The text of the registers. -/
def registers (m : Machine) (hex : Bool) : String :=
  let (text, pc) :=
    if hex then (m.registersHex, Numeral.hexWord m.pc)
    else (m.registersDecimal, Numeral.decimal m.pc)
  String.ofList (fillIn pcMark pc.toList text.toList 0)

end Machine

namespace Bench

/-- Asks the machine. -/
def ask {α : Type} (f : Machine → α) : Query Bench α := fun b =>
  .ok (f b.machine) b

/-- Asks the machine by a question that may be made to fail. -/
def askBy {α : Type} (method : Method) (f : Machine → α) : Query Bench α := fun b =>
  match Machine.find? b.machine.faults method with
  | some message => .error (.fault message) b
  | none => .ok (f b.machine) b

/-- Asks for an address that may be made to fail. -/
def askAt {α : Type} (faults : Machine → List (Int × String)) (address : Int) (f : Machine → α) :
    Query Bench α := fun b =>
  match Machine.find? (faults b.machine) address with
  | some message => .error (.fault message) b
  | none => .ok (f b.machine) b

/-- Adds a text, if there is one, to the end of a file. -/
def write (p : Path) (text : Option String) : Query Bench Unit := fun b =>
  match text with
  | none => .ok () b
  | some text =>
    match b.files.append p (Utf8.encode text.toList) with
    | .ok files => .ok () { b with files }
    | .error e => .error (.file ⟨e, p.text⟩) b

/-- What an event comes to after all was written. -/
def conclude (call : StepCall) (event : Event) : Query Bench Bool := fun b =>
  match event.fault with
  | some message => .error (.fault message) b
  | none =>
    let pc := event.pc.getD (b.machine.pc + 4 * call.count)
    .ok (!event.halt) { b with machine := { b.machine with pc } }

/-- Follows the script by one step, the event being the one at the number of steps before. -/
def step (call : StepCall) : Query Bench Bool := do
  let b ← get
  let event := b.events[b.calls.length]?.getD default
  let machine := event.change { b.machine with words := b.machine.words ++ event.poke }
  set { b with machine, events := event.script.getD b.events, calls := b.calls ++ [call] }
  write b.outputLog event.output
  write b.messageLog event.messages
  conclude call event

end Bench

/-- The simulator that follows a script. -/
def simulator : Simulator Bench where
  currentPc := Bench.askBy .currentPc (·.pc)
  step := Bench.step
  formatRegisters hex := Bench.askBy .formatRegisters (·.registers hex)
  disassemble start := Bench.askBy .disassemble (·.listing start)
  instructionAt address := Bench.askBy .instructionAt (·.instruction address)
  readWord address := Bench.askAt (·.faultWords) address (·.word address)
  readByte address := Bench.askAt (·.faultBytes) address (·.byte address)
  undefinedSymbols := Bench.askBy .undefinedSymbols (·.undefined)
  dataSegment := Bench.askBy .dataSegment (·.data)
  stackSegment := Bench.askBy .stackSegment (·.stack)
  kernelDataSegment := Bench.askBy .kernelDataSegment (·.kernel)

/-- The scripted simulator with the log files it writes to. -/
def host (outputLog messageLog : Path) : Host Bench where
  simulator := simulator
  logPath
    | .output => outputLog.text
    | .messages => messageLog.text
  logFile
    | .output, b => b.files.readBytes outputLog
    | .messages, b => b.files.readBytes messageLog

end Stepboard.Scripted
