import Stepboard.Text.Digit
import Stepboard.Text.Quoted
import Stepboard.Text.Split
/-!
# Command line arguments

The command takes one program and knows one option, which asks for help. Arguments that look like
options are options, and a double dash ends them. The option may be shortened as long as it keeps
its two dashes, and its one-letter form may be repeated in one argument. What is left over is
refused, but an argument that is missing is told of first.
-/

namespace Stepboard.Arguments

/-- What an argument before the double dash is. -/
inductive Role where
  | positional
  | help
  /-- The long option with a value, which it does not take. -/
  | helpWith (value : List Char)
  /-- The one-letter option with more letters after it, which an equals sign may set apart. -/
  | letters (tail : List Char)
  | unknown
  deriving DecidableEq, Repr

/-- The option. -/
def longOption : List Char := "--help".toList
def shortOption : List Char := "-h".toList

/-- Whether a text is a number below zero, which may be followed by a line feed. -/
def isNegativeNumber : List Char → Bool
  | '-' :: cs =>
    let cs := if cs.getLast? == some '\n' then cs.dropLast else cs
    let isDigit := fun c => (Text.digitValue? c).isSome
    match cs.dropWhile isDigit with
    | [] => !cs.isEmpty
    | '.' :: fraction => !fraction.isEmpty && fraction.all isDigit
    | _ => false
  | _ => false

/-- What an argument that starts with a dash and is no option is. -/
def looseRole (cs : List Char) : Role :=
  if isNegativeNumber cs || cs.contains ' ' then .positional else .unknown

/-- What an argument with an equals sign is, if the part before it is the option or, with both its
dashes, the beginning of it. -/
def valueRole? (cs : List Char) : Option Role :=
  match Text.cutAt '=' cs with
  | none => none
  | some (name, value) =>
    if name == shortOption then some (.letters value)
    else if name.take 2 == ['-', '-'] && name.isPrefixOf longOption then some (.helpWith value)
    else none

/-- What an argument before the double dash is. -/
def role (cs : List Char) : Role :=
  if cs.head? != some '-' || cs == ['-'] then .positional
  else if cs == shortOption then .help
  else
    match valueRole? cs, cs with
    | some role, _ => role
    | none, _ :: '-' :: _ => if cs.isPrefixOf longOption then .help else looseRole cs
    | none, _ :: 'h' :: tail => .letters tail
    | none, _ => looseRole cs

/-- A value for an option that takes none. -/
structure UnwantedValue where
  value : List Char
  deriving DecidableEq, Repr

/-- Reads the letters after the one-letter option, each of which asks for help again. From the first
one that does not, they are a value. -/
def readLetters : List Char → Except UnwantedValue Unit
  | ['h'] => .ok ()
  | 'h' :: cs => readLetters cs
  | cs => .error ⟨cs⟩

/-- The form of the command, as help and errors begin. -/
def usage : String := "usage: spim-dash [-h] program\n"

/-- What help tells. -/
def help : String :=
  usage ++ "\n" ++
  "Step a program through a simulator on a multi-pane terminal dashboard\n\n" ++
  "positional arguments:\n" ++
  "  program     Assembly file to load before the dashboard starts\n\n" ++
  "options:\n" ++
  "  -h, --help  show this help message and exit\n"

/-- What is told of arguments or settings that are refused. -/
def refusal (message : String) : String :=
  usage ++ "spim-dash: error: " ++ message ++ "\n"

/-- Why arguments are refused. -/
inductive UsageError where
  | unwantedValue (value : String)
  | missingProgram
  | unrecognized (arguments : List String)
  deriving DecidableEq, Repr

def UsageError.message : UsageError → String
  | unwantedValue value => "argument -h/--help: ignored explicit argument " ++ Text.quote value
  | missingProgram => "the following arguments are required: program"
  | unrecognized arguments => "unrecognized arguments: " ++ " ".intercalate arguments

/-- What is asked for. -/
inductive Request where
  | help
  | run (program : String)
  deriving DecidableEq, Repr

/-- The arguments read so far: the program, and what there is no use for. The program is the last
argument as long as nothing follows it. -/
structure Progress where
  program : Option String := none
  programIsLast : Bool := false
  extras : List String := []

namespace Progress

/-- Takes an argument that is no option. -/
def takePositional (p : Progress) (argument : String) : Progress :=
  match p.program with
  | none => { p with program := some argument, programIsLast := true }
  | some _ => { p with programIsLast := false, extras := p.extras ++ [argument] }

/-- Sets aside an argument that there is no use for. -/
def setAside (p : Progress) (argument : String) : Progress :=
  { p with programIsLast := false, extras := p.extras ++ [argument] }

/-- Takes the arguments after a double dash. A double dash beside the program goes with it, and is
otherwise one more argument that there is no use for. -/
def takeRest (p : Progress) (rest : List String) : Progress :=
  match p.program, rest with
  | none, program :: rest => { p with program := some program, extras := p.extras ++ rest }
  | none, [] => p
  | some _, rest =>
    if p.programIsLast then { p with extras := p.extras ++ rest }
    else { p with extras := p.extras ++ "--" :: rest }

/-- What is asked for when all arguments were read. -/
def finish (p : Progress) : Except UsageError Request :=
  match p.program, p.extras with
  | none, _ => .error .missingProgram
  | some program, [] => .ok (.run program)
  | some _, extras => .error (.unrecognized extras)

end Progress

/-- Reads arguments one by one. Help is given as soon as it is asked for. -/
def readFrom (p : Progress) : List String → Except UsageError Request
  | [] => p.finish
  | argument :: rest =>
    if argument = "--" then (p.takeRest rest).finish
    else
      match role argument.toList with
      | .positional => readFrom (p.takePositional argument) rest
      | .unknown => readFrom (p.setAside argument) rest
      | .help => .ok .help
      | .helpWith value => .error (.unwantedValue (String.ofList value))
      | .letters tail =>
        match readLetters tail with
        | .ok _ => .ok .help
        | .error e => .error (.unwantedValue (String.ofList e.value))

/-- Reads arguments. -/
def read (arguments : List String) : Except UsageError Request :=
  readFrom {} arguments

end Stepboard.Arguments
