import Stepboard.Files.Tree
import Stepboard.Json.Reader
import Stepboard.Log.Record
import Stepboard.Memory.Word
import Stepboard.Text.Decoding
import Stepboard.Text.Integer
import Stepboard.Text.Lines
/-!
# Settings

What a session is set up with. Each setting has a default; a settings file in JSON overrides
defaults, and one environment variable overrides the back end. The values of the file may have any
type, and are turned into what the session needs, or refused with the setting's name. Log files are
placed in the state directory unless their paths are absolute. Variables and the values of the file
may hold halves of pairs, which matter where a path is made of them.
-/

namespace Stepboard

/-- Variables by name. -/
abbrev Environment := List (String × LooseText)

namespace Environment

/-- The value of a variable that is set and not empty. -/
def nonEmpty? (env : Environment) (name : String) : Option LooseText :=
  (env.lookup name).filter fun t => !t.isEmpty

end Environment

/-- The variables that are looked at. -/
def configVariable : String := "SPIMDASH_CONFIG"
def backendVariable : String := "SPIMDASH_BACKEND"
def stateVariable : String := "SPIMDASH_DIR"

/-- What surrounds a process: its variables, the files, the home directories of users, the user
without a name being its own, and how many containers may lie one in another in a settings file
before its stack is used up. -/
structure Surroundings where
  environ : Environment := []
  files : Files
  homeOf : LooseText → Option LooseText := fun _ => none
  nesting : Nat

/-- Why settings cannot be resolved. -/
inductive SettingsError where
  | missingFile (path : String)
  | unreadable (e : FileFailure)
  | undecodable (e : Utf8.DecodeError)
  | malformed (text : List Char) (e : Json.ReadError)
  | notObject
  | badBase (key value : String)
  | infiniteBase
  | badLevel (value : String)
  | noPath (key value : String)
  | notPath (kind : String)
  | noHome
  /-- A home directory is asked for by a name that no user can have. -/
  | impossibleUser (user : LooseText)
  /-- The working directory was removed. -/
  | adrift
  deriving DecidableEq, Repr

namespace SettingsError

def message : SettingsError → String
  | missingFile path => "config path not found: " ++ path
  | unreadable e => e.message
  | undecodable e => e.message
  | malformed text (.defect d position) =>
    "invalid JSON config: " ++ (Json.ReadError.defect d position).message text
  | malformed text e => e.message text
  | notObject => "config file must hold a JSON object"
  | badBase key value => key ++ " must be 10, 16 or null, got " ++ value
  | infiniteBase => "cannot convert float infinity to integer"
  | badLevel value => "unknown log_level: " ++ value
  | noPath key value => key ++ " must be a file path, got " ++ value
  | notPath kind => "expected str, bytes or os.PathLike object, not " ++ kind
  | noHome => "Could not determine home directory."
  | impossibleUser user => user.complaint
  | adrift => FileFailure.message ⟨.adrift, "."⟩

/-- Whether an error is about what the user wrote, and is answered with the usage. -/
def isUsage : SettingsError → Bool
  | unreadable _ | malformed _ (.tooDeep _) | infiniteBase | notPath _ | noHome | adrift => false
  | _ => true

end SettingsError

/-- Where records go: to a file, or nowhere, in which case the value that said so is kept. -/
inductive LogTarget where
  | nowhere (value : Json.Value)
  | file (path : Path)

/-- Resolved settings. -/
structure Settings where
  backend : Json.Value
  outputLog : Path
  messageLog : Path
  hexRegisters : Bool
  dataBase : Memory.Base
  stackBase : Memory.Base
  logFile : LogTarget
  logLevel : Level
  stateDirectory : Path

namespace Settings

/-- Settings by name, or the members of a settings file. -/
abbrev Members := List (LooseText × Json.Value)

/-- The settings with their defaults. -/
def defaults : Members :=
  [("backend", .null), ("output_log", .str "output.log"), ("message_log", .str "messages.log"),
   ("hex_registers", .bool true), ("data_base", .int 16), ("stack_base", .int 16),
   ("log_file", .null), ("log_level", .str "INFO")]

/-- Whether there is a setting of a name. -/
def isKnown (name : LooseText) : Bool :=
  (defaults.lookup name).isSome

/-- The settings with their values by the file, or by default. Members that are no settings are
passed over. -/
def merge (members : Members) : Members :=
  Keyed.setAll defaults (members.filter fun m => isKnown m.1)

/-- The value of a setting. -/
def valueOf (members : Members) (key : LooseText) : Json.Value :=
  ((merge members).lookup key).getD .null

/-- What is noted of the members that are no settings. -/
def unknownNotes (members : Members) : List Record :=
  (members.filter fun m => !isKnown m.1).map fun m =>
    ⟨.warning, "dash_core.config", "ignoring unknown config key " ++ m.1.quote⟩

/-- Reads the members of a settings file, in which `nesting` containers may lie one in another. -/
def readMembers (files : Files) (nesting : Nat) (path : LooseText) :
    Except SettingsError Members :=
  let p := Path.ofText path
  match files.hasEntry p with
  | .error e => .error (.unreadable ⟨e, p.text⟩)
  | .ok false => .error (.missingFile p.toString)
  | .ok true =>
    match files.readBytes p with
    | .error e => .error (.unreadable ⟨e, p.text⟩)
    | .ok bytes =>
      match Utf8.decodeStrict bytes with
      | .error e => .error (.undecodable e)
      | .ok chars =>
        let text := Text.unixNewlines chars
        match Json.read nesting text with
        | .error e => .error (.malformed text e)
        | .ok (.obj members) => .ok members
        | .ok _ => .error .notObject

/-- The members of the settings file that is asked for, if one is. -/
def loadMembers (files : Files) (nesting : Nat) (path : Option LooseText) :
    Except SettingsError Members :=
  match path with
  | some path => readMembers files nesting path
  | none => .ok []

/-- The integer that a value of the setting `key` stands for: numbers lose their fraction, truth
values count as numbers, and texts are read. -/
def integerOf (key : String) (value : Json.Value) : Except SettingsError Int :=
  match value with
  | .bool b => .ok (if b then 1 else 0)
  | .int n => .ok n
  | .float (.finite negative mantissa exponent) =>
    .ok (Binary64.truncate negative mantissa exponent)
  | .float (.infinite _) => .error .infiniteBase
  | .str (.whole s) =>
    match Text.readInteger Json.maxDigits s with
    | some n => .ok n
    | none => .error (.badBase key value.describe)
  | _ => .error (.badBase key value.describe)

/-- The base that a value of the setting `key` stands for. -/
def baseOf (key : String) (value : Json.Value) : Except SettingsError Memory.Base :=
  match value with
  | .null => .ok .binary
  | value =>
    match integerOf key value with
    | .error e => .error e
    | .ok n =>
      match Memory.Base.ofRadix (some n) with
      | .ok b => .ok b
      | .error _ => .error (.badBase key (Numeral.decimal n))

/-- The capital of a letter that a level's name may hold; the dotless i has the capital of i. -/
def capital (c : Char) : Char :=
  if c = Char.ofNat 0x131 then 'I' else c.toUpper

/-- The level that a value names, in capitals or not. -/
def levelOf (value : Json.Value) : Except SettingsError Level :=
  let name := String.ofList (value.asText.shown.toList.map capital)
  match Level.all.find? (·.name == name) with
  | some level => .ok level
  | none => .error (.badLevel value.asText.shown)

/-- The value of a setting that must be given. -/
def required (members : Members) (key : String) : Except SettingsError Json.Value :=
  let value := valueOf members key
  if value.isTrue then .ok value else .error (.noPath key value.describe)

/-- The home directory that the first name of a path stands for. -/
def homeDirectory (around : Surroundings) (name : LooseText) : Option LooseText :=
  let home :=
    if name = "~" then
      match around.environ.lookup "HOME" with
      | some home => some home
      | none => around.homeOf ""
    else around.homeOf name.tail
  home.map fun home =>
    let kept := Text.trimEnd (· == .char '/') home.symbols
    if kept.isEmpty then "/" else LooseText.ofSymbols kept

/-- Whether a text starts with a tilde. -/
def startsAtHome (t : LooseText) : Bool :=
  t.symbols.head? == some (.char '~')

/-- Puts the home directory in place of a first name that starts with a tilde. -/
def expandHome (around : Surroundings) (p : Path) : Except SettingsError Path :=
  match p.names with
  | name :: names =>
    if p.isAbsolute || !startsAtHome name then .ok p
    else if name.tail.isImpossible then .error (.impossibleUser name.tail)
    else
      match homeDirectory around name with
      | none => .error .noHome
      | some home =>
        if startsAtHome home then .error .noHome
        else .ok ((Path.ofText home).join ⟨"", names⟩)
  | [] => .ok p

/-- The path of a log file: the given one if it is absolute, else one in the state directory. -/
def logPath (around : Surroundings) (state : Path) (value : Json.Value) :
    Except SettingsError Path :=
  match value with
  | .str t => (expandHome around (Path.ofText t)).map state.join
  | value => .error (.notPath value.kind)

/-- The state directory of a process: the one its variable names, even by an empty text, else one in
the working directory. The working directory is asked for in either case. -/
def processStateDirectory (around : Surroundings) : Except SettingsError Path :=
  match around.files.workingDirectory? with
  | none => .error .adrift
  | some here =>
    match around.environ.lookup stateVariable with
    | some t => .ok (Path.ofText t)
    | none => .ok (here.join ⟨"", [".spimdash"]⟩)

/-- The state directory: the one that a variable names, else that of the process. -/
def stateDirectoryOf (around : Surroundings) (env : Environment) : Except SettingsError Path :=
  match env.nonEmpty? stateVariable with
  | some t => .ok (Path.ofText t)
  | none => processStateDirectory around

/-- Where records go by the setting's value. -/
def targetOf (around : Surroundings) (state : Path) (value : Json.Value) :
    Except SettingsError LogTarget :=
  if value.isTrue then (logPath around state value).map LogTarget.file else .ok (.nowhere value)

/-- The back end: the one that a variable names, else that of the file. -/
def backendOf (env : Environment) (members : Members) : Json.Value :=
  match env.nonEmpty? backendVariable with
  | some t => .str t
  | none => valueOf members "backend"

/-- Resolves settings from the members of a file and an environment. -/
def ofMembers (around : Surroundings) (env : Environment) (members : Members) :
    Except SettingsError Settings := do
  let dataBase ← baseOf "data_base" (valueOf members "data_base")
  let stackBase ← baseOf "stack_base" (valueOf members "stack_base")
  let logLevel ← levelOf (valueOf members "log_level")
  let outputValue ← required members "output_log"
  let messageValue ← required members "message_log"
  let stateDirectory ← stateDirectoryOf around env
  let outputLog ← logPath around stateDirectory outputValue
  let messageLog ← logPath around stateDirectory messageValue
  let logFile ← targetOf around stateDirectory (valueOf members "log_file")
  pure {
    backend := backendOf env members, outputLog, messageLog
    hexRegisters := (valueOf members "hex_registers").isTrue
    dataBase, stackBase, logFile, logLevel, stateDirectory }

/-- The settings file that is asked for: by a path, else by a variable. -/
def fileAsked (path : Option LooseText) (env : Environment) : Option LooseText :=
  match path.filter fun t => !t.isEmpty with
  | some path => some path
  | none => env.nonEmpty? configVariable

/-- Resolves settings, and gives what was noted on the way. The environment is that of the process
unless another is given. -/
def resolve (around : Surroundings) (path : Option LooseText) (environ : Option Environment) :
    List Record × Except SettingsError Settings :=
  let env := environ.getD around.environ
  match loadMembers around.files around.nesting (fileAsked path env) with
  | .error e => ([], .error e)
  | .ok members => (unknownNotes members, ofMembers around env members)

end Settings

end Stepboard
