import Stepboard.Text.Quoted
/-!
# Panes and contexts

The six panes of the board, in the order in which the focus goes round them. A context is a pane or
the sentinel that stands for no pane.
-/

namespace Stepboard

/-- A text that names no member of a kind. -/
structure UnknownName where
  kind : String
  text : String
  deriving DecidableEq, Repr

def UnknownName.message (e : UnknownName) : String :=
  Text.quote e.text ++ " is not a valid " ++ e.kind

/-- A pane of the board. -/
inductive PaneId where
  | registers
  | instructions
  | data
  | stack
  | output
  | log
  deriving DecidableEq, Repr

namespace PaneId

/-- The panes in focus order. -/
def all : List PaneId :=
  [registers, instructions, data, stack, output, log]

theorem mem_all (id : PaneId) : id ∈ all := by
  cases id <;> decide

/-- The name by which a pane is called for. -/
def name : PaneId → String
  | registers => "registers"
  | instructions => "instructions"
  | data => "data"
  | stack => "stack"
  | output => "output"
  | log => "log"

/-- The title of a pane. -/
def label : PaneId → String
  | registers => "Registers"
  | instructions => "Instructions"
  | data => "Data"
  | stack => "Stack"
  | output => "Output"
  | log => "Log"

/-- The place of a pane in focus order. -/
def index : PaneId → Nat
  | registers => 0
  | instructions => 1
  | data => 2
  | stack => 3
  | output => 4
  | log => 5

/-- The pane at a place in focus order, counted round. -/
def atIndex (i : Int) : PaneId :=
  match (i % 6).toNat with
  | 0 => registers
  | 1 => instructions
  | 2 => data
  | 3 => stack
  | 4 => output
  | _ => log

end PaneId

/-- A pane, or no pane at all. -/
inductive Context where
  | pane (id : PaneId)
  | invalid
  deriving DecidableEq, Repr

namespace Context

/-- The name of the sentinel. -/
def invalidName : String := "invalid"

def name : Context → String
  | pane id => id.name
  | invalid => invalidName

/-- The context of a name. -/
def ofName (s : String) : Except UnknownName Context :=
  match PaneId.all.find? (·.name == s) with
  | some id => .ok (.pane id)
  | none => if s == invalidName then .ok .invalid else .error ⟨"PaneId", s⟩

end Context

end Stepboard
