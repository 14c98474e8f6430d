import Stepboard.Files.Tree
import Stepboard.Log.Record
import Stepboard.Text.Lines
import Stepboard.Text.Utf8
/-!
# Tailing log files

The simulator writes log files that other programs may change at any time. A file is read afresh
whenever its lines are asked for, a file that cannot be read has none, and a stream remembers only
the largest number of lines seen since it was reset. Only a path that no file can have is an error.
-/

namespace Stepboard

/-- What reading a log file gives. -/
abbrev LogFile := Except FileError (List UInt8)

namespace LogFile

/-- The lines of a log file. -/
def lines : LogFile → List String
  | .ok bytes => Text.fileLines (Utf8.decode bytes)
  | .error _ => []

/-- The number of lines of a log file. -/
def lineCount (file : LogFile) : Nat :=
  file.lines.length

/-- Up to `height` lines of a log file, from a line on. -/
def read (file : LogFile) (start height : Int) : List String :=
  (file.lines.drop start.toNat).take height.toNat

/-- The error that a log file at a path is, if no file can have that path. -/
def failure? (file : LogFile) (path : LooseText) : Option FileFailure :=
  match file with
  | .error .impossible => some ⟨.impossible, path⟩
  | _ => none

/-- The error that reading `height` lines gives. Nothing is read for no lines. -/
def readFailure? (file : LogFile) (path : LooseText) (height : Int) : Option FileFailure :=
  if height ≤ 0 then none else file.failure? path

/-- What is noted when a log file at a path cannot be read. -/
def notes (file : LogFile) (path : LooseText) (height : Int) : List Record :=
  match file with
  | .ok _ => []
  | .error e =>
    if height ≤ 0 then []
    else [⟨.debug, "dash_core.collectors.logs",
      "log " ++ path ++ " unreadable: " ++ FileFailure.message ⟨e, path⟩⟩]

end LogFile

/-- The lines of a log file known so far. -/
structure LogStream where
  offset : Nat := 0
  deriving DecidableEq, Repr

namespace LogStream

/-- Counts the lines of the file and gives how many are new. A file that became shorter takes
nothing back. -/
def poll (s : LogStream) (file : LogFile) : Nat × LogStream :=
  if file.lineCount ≤ s.offset then (0, s) else (file.lineCount - s.offset, ⟨file.lineCount⟩)

/-- Forgets all lines. -/
def reset (_ : LogStream) : LogStream :=
  {}

/-- The known line nearest to a row. -/
def clamp (s : LogStream) (row : Int) : Nat :=
  min row.toNat (s.offset - 1)

/-- The lines of the file from the known line nearest to a row on. -/
def window (s : LogStream) (file : LogFile) (row height : Int) : Nat × List String :=
  (s.clamp row, file.read (s.clamp row) height)

end LogStream

end Stepboard
