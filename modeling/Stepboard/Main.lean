import Stepboard.Command
import Stepboard.Console.Wide
/-!
# The program

Gathers what the command looks at, runs it, and carries out what it came to. No back end is linked
into this program, so it ends before a session would begin.
-/

namespace Stepboard.Main

/-- How many containers may lie one in another in a settings file. -/
def nesting : Nat := 992

/-- The text of an absolute place. -/
def placeText (place : Place) : String :=
  (Path.mk "/" place).toString

/-- Whether something can be had. -/
def succeeds {α : Type} (action : IO α) : IO Bool := do
  match ← action.toBaseIO with
  | .ok _ => pure true
  | .error _ => pure false

/-- What stands at a place. -/
def entryAt (place : Place) : IO (Option Entry) := do
  if ← succeeds (IO.FS.realPath (placeText place ++ "/.")) then
    pure (some .directory)
  else
    match ← (IO.FS.readBinFile (placeText place)).toBaseIO with
    | .ok bytes => pure (some (.file bytes.toList))
    | .error _ => pure none

/-- Adds what stands at a place, and at the places above it. -/
def addPlace (files : Files) (place : Place) : IO Files :=
  (List.range (place.length + 1)).foldlM (fun files n => do
    match ← entryAt (place.take n) with
    | some entry => pure (files.put (place.take n) entry)
    | none => pure files) files

/-- Adds what stands at a path. -/
def addPath (files : Files) (p : Path) : IO Files :=
  addPlace files ((Path.mk "/" files.workingPlace).join p).collapse.names

/-- The variables that are looked at. -/
def readEnvironment : IO Environment := do
  let found ← [configVariable, backendVariable, stateVariable, "HOME"].mapM fun name => do
    pure ((← IO.getEnv name).map fun value => (name, LooseText.whole value))
  pure (found.filterMap id)

/-- The surroundings, with the files that the settings and the arguments name. -/
def readSurroundings (arguments : List String) : IO Surroundings := do
  let environ ← readEnvironment
  let files ←
    match ← IO.currentDir.toBaseIO with
    | .ok here =>
      let workingPlace := (Path.ofString here.toString).names
      addPlace { workingPlace } workingPlace
    | .error _ => pure { workingPlace := [], workingRemoved := true }
  let asked := (Settings.fileAsked none environ).toList ++ arguments.map LooseText.whole
  let files ← (asked.map Path.ofText).foldlM addPath files
  let around : Surroundings := { environ, files, nesting }
  match (Settings.resolve around none none).2 with
  | .error _ => pure around
  | .ok settings =>
    let logs :=
      match settings.logFile with
      | .nowhere _ => [settings.outputLog, settings.messageLog]
      | .file p => [settings.outputLog, settings.messageLog, p]
    pure { around with files := ← logs.foldlM addPath files }

/-- Makes the files what they are to be. -/
def writeFiles (before after : Files) : IO Unit :=
  after.entries.forM fun (place, entry) => do
    if before.entryAt? place != some entry then
      match entry with
      | .directory => IO.FS.createDirAll (placeText place)
      | .file bytes => IO.FS.writeBinFile (placeText place) ⟨bytes.toArray⟩

end Stepboard.Main

open Stepboard in
def main (arguments : List String) : IO UInt32 := do
  let around ← Main.readSurroundings arguments
  let command : Command Unit :=
    { arguments, around, registry := [], isTerminal := ← (← IO.getStdin).isTty
      width := 80, height := 24 }
  let outcome := command.run
  Main.writeFiles around.files outcome.files
  (← IO.getStdout).putStr (Console.wide.shown .output outcome.written)
  let errors ← IO.getStderr
  errors.putStr (Console.wide.shown .errors outcome.written)
  match outcome.ending with
  | .escaped e => errors.putStr (e.message ++ "\n")
  | _ => pure ()
  pure (UInt32.ofNat outcome.ending.code)
