import Stepboard.Arguments
import Stepboard.Backend
import Stepboard.Console
import Stepboard.Key.Reader
import Stepboard.Settings
/-!
# The command

A run of the command from its arguments to its end: it resolves the settings, makes the log file
ready, checks the program and the terminal, loads the program, and runs a session on the keys typed.
Each check that fails ends the run before the next is made, and nothing is loaded before all of them
have passed. Until the log file is ready there is no log, and what is noted goes to the errors if it
matters enough.
-/

namespace Stepboard

namespace LogTarget

/-- The place where the log file is opened: its path seen from the working directory, if that is
there, without double dots. -/
def filePath? (files : Files) (p : Path) : Option Path :=
  if p.isAbsolute then some p.collapse
  else files.workingDirectory?.map fun here => (here.join p).collapse

/-- Makes the log file and the directories it lies in. -/
def prepare : LogTarget → FileWork Unit
  | nowhere _ => pure ()
  | file p => do
    FileWork.ensureDirectories p.parent
    match filePath? (← get) p with
    | some place => FileWork.touch place
    | none => throw ⟨.adrift, p.text⟩

/-- Writes a record to the log file, if there is one. A record with halves cannot be written. -/
def write (target : LogTarget) (r : Record) (files : Files) : Files :=
  match target, r.line with
  | file p, .whole line =>
    match filePath? files p with
    | some place => (files.append place (Utf8.encode line.toList)).toOption.getD files
    | none => files
  | _, _ => files

/-- Whether a record is to be written to a file and cannot be. -/
def cannotWrite (target : LogTarget) (r : Record) : Bool :=
  match target with
  | nowhere _ => false
  | file _ => r.line.isTorn

end LogTarget

namespace Settings

/-- How a session shows the simulator's state. -/
def viewOptions (s : Settings) : ViewOptions :=
  { hexRegisters := s.hexRegisters, dataRadix := s.dataBase.radix, stackRadix := s.stackBase.radix }

/-- Makes the directories that the simulator's log files lie in. -/
def prepareLogs (s : Settings) : FileWork Unit := do
  FileWork.ensureDirectories s.outputLog.parent
  FileWork.ensureDirectories s.messageLog.parent

/-- Writes a record to the log file, if it matters by the settings. -/
def record (s : Settings) (r : Record) (files : Files) : Files :=
  if r.reaches s.logLevel then s.logFile.write r files else files

/-- The complaints about those records that matter and cannot be written. -/
def complaints (s : Settings) (notes : List Record) : List Writing :=
  (notes.filter fun r => r.reaches s.logLevel && s.logFile.cannotWrite r).map .complaint

end Settings

/-- What the command is run with. -/
structure Command (σ : Type) where
  arguments : List String
  around : Surroundings
  registry : Registry (Backend σ)
  isTerminal : Bool := true
  /-- The bytes typed, after which the input ends. -/
  typed : List UInt8 := []
  width : Int
  height : Int

/-- What stops the command where it arises. -/
inductive Escape where
  | settings (e : SettingsError)
  | files (e : FileFailure)
  | load (e : LoadError)
  | session (e : Failure)

def Escape.message : Escape → String
  | settings e => e.message
  | files e => e.message
  | load e => e.message
  | session e => e.message

/-- How a run ends: before anything was done, with an exit code, or by an error that escapes. -/
inductive Ending where
  | refused
  | helped
  | done (code : Nat)
  | escaped (e : Escape)

/-- The exit code of arguments or settings that are refused. -/
def exitUsage : Nat := 2

/-- The exit code of an ending. -/
def Ending.code : Ending → Nat
  | refused => exitUsage
  | helped => exitOk
  | done code => code
  | escaped _ => exitFatal

/-- What a run came to: its end, what it wrote apart from the screens of its session, the files it
left, what back ends were asked, and the session if one was begun. -/
structure Outcome (σ : Type) where
  ending : Ending
  written : List Writing := []
  files : Files
  requests : List LoadRequest := []
  session : Option (Finish σ) := none

namespace Command

variable {σ : Type}

/-- An error as it is printed. -/
def errorPrinting (message : String) : Printing where
  text := message
  style := "red"

/-- What is printed where there is no terminal. -/
def terminalPrinting : Printing where
  text := "spim-dash needs an interactive terminal"
  style := "red"
  markup := true
  highlight := true

/-- Ends a run by what is printed. -/
def fail (p : Printing) (files : Files) : Outcome σ :=
  { ending := .done exitFatal, written := [.printing .errors p], files }

/-- Ends a run because its arguments or settings are refused. -/
def refuse (c : Command σ) (message : String) : Outcome σ :=
  { ending := .refused, written := [.text .errors (Arguments.refusal message)]
    files := c.around.files }

/-- The keys typed, up to the end of the input. -/
def keys (c : Command σ) : List String :=
  (Key.readAll c.typed).map (·.key) ++ [Key.eof]

/-- The session of a loaded program, after what was noted before. -/
def begin (c : Command σ) (settings : Settings) (program : Path) (notes : List Record)
    (loaded : Loaded σ) : Session σ :=
  { board := Board.blank program.name c.width c.height settings.viewOptions
    world := loaded.world, notes }

/-- The host of a loaded program, with the log file among its files. -/
def hostOf (settings : Settings) (loaded : Loaded σ) : Host σ :=
  { loaded.host with record := fun r => loaded.mapFiles (settings.record r) }

/-- The last words of a session: its message, if it has one, goes to the output, or to the errors
if the session failed. -/
def lastWords (code : Nat) (message : String) : List Writing :=
  if message.isEmpty then []
  else [.printing (if code = exitOk then .output else .errors) { text := message }]

/-- Runs a session. -/
def play (c : Command σ) (settings : Settings) (program : Path) (notes : List Record)
    (loaded : Loaded σ) : Outcome σ :=
  let finish := (c.begin settings program notes loaded).run (hostOf settings loaded) c.keys
  let files := loaded.files finish.session.world
  let complaints := settings.complaints finish.session.notes
  match finish.code with
  | .error e =>
    { ending := .escaped (.session e), written := complaints, files, session := some finish }
  | .ok code =>
    { ending := .done code, files, session := some finish
      written := complaints ++ lastWords code finish.session.board.exitMessage }

/-- What is noted of a program that cannot be loaded. -/
def loadNote (e : LoadError) : Record :=
  ⟨.error, "dash_core", e.message⟩

/-- Ends a run because the program cannot be loaded. -/
def failLoad (settings : Settings) (e : LoadError) (report : LoadReport σ) : Outcome σ :=
  let outcome : Outcome σ :=
    if e.isReported then
      fail (errorPrinting e.message) (settings.record (loadNote e) report.files)
    else { ending := .escaped (.load e), files := report.files }
  { outcome with written := settings.complaints report.notes ++ outcome.written }

/-- Loads the program and runs a session. -/
def load (c : Command σ) (settings : Settings) (program : Path) (files : Files) : Outcome σ :=
  let report := Backend.load c.registry settings.record settings.backend
    { program, outputLog := settings.outputLog, messageLog := settings.messageLog, files }
  let outcome :=
    match report.result with
    | .error e => failLoad settings e report
    | .ok loaded => c.play settings program report.notes loaded
  { outcome with requests := report.requests }

/-- Checks the program and the terminal, and makes the directories of the simulator's log files. -/
def check (c : Command σ) (settings : Settings) (program : Path) (files : Files) : Outcome σ :=
  match files.isFile program with
  | .error e => { ending := .escaped (.files ⟨e, program.text⟩), files }
  | .ok false => fail (errorPrinting ("program not found: " ++ program.toString)) files
  | .ok true =>
    if !c.isTerminal then fail terminalPrinting files
    else
      match settings.prepareLogs files with
      | .error e files => { ending := .escaped (.files e), files }
      | .ok _ files => c.load settings program files

/-- Goes on with what the settings were resolved to. -/
def configure (c : Command σ) (program : Path) : Except SettingsError Settings → Outcome σ
  | .error e =>
    if e.isUsage then c.refuse e.message
    else { ending := .escaped (.settings e), files := c.around.files }
  | .ok settings =>
    match settings.logFile.prepare c.around.files with
    | .error e files => { ending := .escaped (.files e), files }
    | .ok _ files => c.check settings program files

/-- What is told of records while there is no log: the messages of those that are warnings at
least. -/
def notices (notes : List Record) : List Writing :=
  (notes.filter (·.reaches .warning)).map fun r => .text .errors (r.message.shown ++ "\n")

/-- A run before which records were noted, with what is told of them. -/
def afterNotes (notes : List Record) (outcome : Outcome σ) : Outcome σ :=
  { outcome with written := notices notes ++ outcome.written }

/-- Runs the command. -/
def run (c : Command σ) : Outcome σ :=
  match Arguments.read c.arguments with
  | .error e => c.refuse e.message
  | .ok .help =>
    { ending := .helped, written := [.text .output Arguments.help], files := c.around.files }
  | .ok (.run program) =>
    let (notes, resolved) := Settings.resolve c.around none none
    afterNotes notes (c.configure (Path.ofString program) resolved)

end Command

end Stepboard
