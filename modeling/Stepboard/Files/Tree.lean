import Stepboard.Files.Path
import Stepboard.Keyed
/-!
# Files

The files and directories that the program meets, by their place below the root. A path is followed
name by name from the root or the working directory, each name within a directory that exists. Names
and paths have a greatest length, and some paths can be no file's. What stands at a place may be
refused all the same, for want of a permission or for any other reason that the system has.
-/

namespace Stepboard

/-- An error of the system by its number and text, none of those that come of what stands at places
and of the lengths of names. -/
structure SystemError where
  number : Nat
  text : String
  isOther : number ∉ [2, 17, 20, 21, 36] := by decide
  deriving DecidableEq, Repr

/-- The error of a place for which a permission is missing. -/
def SystemError.denied : SystemError where
  number := 13
  text := "Permission denied"

/-- Why a path cannot be used. -/
inductive FileError where
  | missing
  | notDirectory
  | isDirectory
  | occupied
  | tooLong
  | refused (e : SystemError)
  /-- No file can have the path, so that nothing can be asked about it. -/
  | impossible
  /-- The working directory, which the path is seen from, was removed. -/
  | adrift
  deriving DecidableEq, Repr

namespace FileError

/-- Whether an error tells that nothing stands at a path, as far as one could look. Two of the other
errors of the system do: a closed descriptor, and links that lead in a circle. -/
def isAbsence : FileError → Bool
  | missing | notDirectory | impossible | adrift => true
  | isDirectory | occupied | tooLong => false
  | refused e => e.number == 9 || e.number == 40

end FileError

/-- An error and the path it arose at. -/
structure FileFailure where
  cause : FileError
  path : LooseText
  deriving DecidableEq, Repr

/-- The text of an error. A path that no file can have is not told. -/
def FileFailure.message (e : FileFailure) : String :=
  let telling (words : String) : String := words ++ ": " ++ e.path.quote
  match e.cause with
  | .missing => telling "[Errno 2] No such file or directory"
  | .occupied => telling "[Errno 17] File exists"
  | .notDirectory => telling "[Errno 20] Not a directory"
  | .isDirectory => telling "[Errno 21] Is a directory"
  | .tooLong => telling "[Errno 36] File name too long"
  | .refused s => telling ("[Errno " ++ Numeral.decimal s.number ++ "] " ++ s.text)
  | .impossible => e.path.complaint
  | .adrift => "[Errno 2] No such file or directory"

/-- What stands at a place. -/
inductive Entry where
  | file (bytes : List UInt8)
  | directory
  deriving DecidableEq, Repr

/-- A place below the root. -/
abbrev Place := List LooseText

/-- What the system may refuse at a place: to tell what stands there, to go below it, to read the
file there, and to write to the file or to put something into the directory. -/
inductive Access where
  | look
  | enter
  | read
  | write
  deriving DecidableEq, Repr

/-- The files below the root and the working directory, with what is refused where and how. The
working directory may have been removed under the process. -/
structure Files where
  workingPlace : Place
  entries : List (Place × Entry) := []
  refusals : List ((Place × Access) × SystemError) := []
  workingRemoved : Bool := false
  deriving DecidableEq, Repr

namespace Files

/-- The working directory if it is there. -/
def workingDirectory? (fs : Files) : Option Path :=
  if fs.workingRemoved then none else some ⟨"/", fs.workingPlace⟩

/-- The working directory, or the one that it was removed from. -/
def standing (fs : Files) : Place :=
  if fs.workingRemoved then fs.workingPlace.dropLast else fs.workingPlace

/-- The entry at a place; the root, and every place above the working directory, is a directory. -/
def entryAt? (fs : Files) (place : Place) : Option Entry :=
  match fs.entries.lookup place with
  | some entry => some entry
  | none => if place.isPrefixOf fs.standing then some .directory else none

/-- The error by which something is refused at a place, if it is. -/
def refusal? (fs : Files) (place : Place) (access : Access) : Option SystemError :=
  fs.refusals.lookup (place, access)

/-- What comes of some work at a place that needs an access to it. -/
def guarded {α : Type} (fs : Files) (place : Place) (access : Access)
    (work : Except FileError α) : Except FileError α :=
  match fs.refusal? place access with
  | some e => .error (.refused e)
  | none => work

/-- The most bytes that a name and a path may have. -/
def maxNameSize : Nat := 255
def maxPathSize : Nat := 4095

/-- Follows names from a place. The place reached need not exist. -/
def follow (fs : Files) (place : Place) : List LooseText → Except FileError Place
  | [] => .ok place
  | name :: names =>
    match fs.entryAt? place with
    | none => .error .missing
    | some (.file _) => .error .notDirectory
    | some .directory =>
      fs.guarded place .enter <|
        if maxNameSize < name.byteSize then .error .tooLong
        else fs.follow (if name = ".." then place.dropLast else place ++ [name]) names

/-- Follows names from the working directory. One that was removed is still a directory, as the root
is, and leads to the one that it was removed from, but to nothing else. -/
def followHere (fs : Files) (names : List LooseText) : Except FileError Place :=
  if fs.workingRemoved then
    match names with
    | [] => .ok []
    | name :: names => if name = ".." then fs.follow fs.standing names else .error .missing
  else fs.follow fs.workingPlace names

/-- The place of a path. -/
def place (fs : Files) (p : Path) : Except FileError Place :=
  if p.isImpossible then .error .impossible
  else if maxPathSize < p.text.byteSize then .error .tooLong
  else if p.isAbsolute then fs.follow [] p.names
  else fs.followHere p.names

/-- The entry at a path. -/
def lookup (fs : Files) (p : Path) : Except FileError Entry :=
  match fs.place p with
  | .ok place =>
    fs.guarded place .look <|
      match fs.entryAt? place with
      | some entry => .ok entry
      | none => .error .missing
  | .error e => .error e

/-- Whether anything stands at a path. -/
def hasEntry (fs : Files) (p : Path) : Except FileError Bool :=
  match fs.lookup p with
  | .ok _ => .ok true
  | .error e => if e.isAbsence then .ok false else .error e

/-- Whether a file stands at a path. -/
def isFile (fs : Files) (p : Path) : Except FileError Bool :=
  match fs.lookup p with
  | .ok (.file _) => .ok true
  | .ok .directory => .ok false
  | .error e => if e.isAbsence then .ok false else .error e

/-- Whether a directory stands at a path. -/
def isDirectory (fs : Files) (p : Path) : Bool :=
  match fs.lookup p with
  | .ok .directory => true
  | _ => false

/-- The error by which something is refused at the place of a path, if it is. -/
def refusalAt? (fs : Files) (p : Path) (access : Access) : Option SystemError :=
  match fs.place p with
  | .ok place => fs.refusal? place access
  | .error _ => none

/-- The bytes of the file at a path. -/
def readBytes (fs : Files) (p : Path) : Except FileError (List UInt8) :=
  match fs.lookup p, fs.refusalAt? p .read with
  | .error e, _ => .error e
  | .ok _, some e => .error (.refused e)
  | .ok (.file bytes), none => .ok bytes
  | .ok .directory, none => .error .isDirectory

/-- The bytes of the file that a text names as it stands. A text that ends in a slash or a lone dot
names a directory, and an empty one nothing. -/
def readNamed (fs : Files) (text : String) : Except FileError (List UInt8) :=
  let p := Path.ofString text
  if text.isEmpty then .error .missing
  else if maxPathSize < text.utf8ByteSize && !p.isImpossible then .error .tooLong
  else
    match fs.readBytes p with
    | .ok bytes => if Path.endsInDirectory text then .error .notDirectory else .ok bytes
    | .error e => .error e

/-- Puts an entry at a place. -/
def put (fs : Files) (place : Place) (entry : Entry) : Files :=
  { fs with entries := Keyed.set fs.entries place entry }

/-- Changes the bytes of the file at a path, which is made if it is missing. -/
def change (fs : Files) (p : Path) (f : List UInt8 → List UInt8) : Except FileError Files :=
  match fs.place p with
  | .error e => .error e
  | .ok place => match fs.entryAt? place with
    | some (.file bytes) => fs.guarded place .write (.ok (fs.put place (.file (f bytes))))
    | some .directory => .error .isDirectory
    | none => fs.guarded place.dropLast .write (.ok (fs.put place (.file (f []))))

/-- Adds bytes to the end of the file at a path. -/
def append (fs : Files) (p : Path) (bytes : List UInt8) : Except FileError Files :=
  fs.change p (· ++ bytes)

/-- Writes the file at a path anew. -/
def write (fs : Files) (p : Path) (bytes : List UInt8) : Except FileError Files :=
  fs.change p fun _ => bytes

/-- Takes away the entry at a path and all below it. -/
def delete (fs : Files) (p : Path) : Except FileError Files :=
  match fs.place p with
  | .error e => .error e
  | .ok place => match fs.entryAt? place with
    | some _ => .ok { fs with entries := fs.entries.filter fun e => !place.isPrefixOf e.1 }
    | none => .error .missing

/-- Makes a directory in one that exists. -/
def makeDirectory (fs : Files) (p : Path) : Except FileError Files :=
  match fs.place p with
  | .error e => .error e
  | .ok place =>
    fs.guarded place .look <|
      match fs.entryAt? place with
      | some _ => .error .occupied
      | none => fs.guarded place.dropLast .write (.ok (fs.put place .directory))

/-- Makes a directory unless it is there already. -/
def ensureDirectory (fs : Files) (p : Path) : Except FileError Files :=
  match fs.makeDirectory p with
  | .ok fs' => .ok fs'
  | .error .missing => .error .missing
  | .error e => if fs.isDirectory p then .ok fs else .error e

end Files

/-- Work on files. What was done before an error stays done. -/
abbrev FileWork (α : Type) := EStateM FileFailure Files α

namespace FileWork

/-- Changes the files, and names the path where that fails. -/
def naming (p : Path) (change : Files → Except FileError Files) : FileWork Unit := fun fs =>
  match change fs with
  | .ok fs => .ok () fs
  | .error e => .error ⟨e, p.text⟩ fs

/-- Makes the directory at a path given by its root and its names in reverse, and whatever
directories it lies in. -/
def ensureReversed (root : String) : List LooseText → FileWork Unit
  | [] => naming ⟨root, []⟩ (·.ensureDirectory ⟨root, []⟩)
  | name :: above => fun fs =>
    let p : Path := ⟨root, (name :: above).reverse⟩
    match fs.ensureDirectory p with
    | .ok fs => .ok () fs
    | .error .missing =>
      match ensureReversed root above fs with
      | .ok _ fs => naming p (·.ensureDirectory p) fs
      | .error e fs => .error e fs
    | .error e => .error ⟨e, p.text⟩ fs

/-- Makes a directory and those it lies in, as far as they are missing. -/
def ensureDirectories (p : Path) : FileWork Unit :=
  ensureReversed p.root p.names.reverse

/-- Makes a file unless it is there already. -/
def touch (p : Path) : FileWork Unit :=
  naming p (·.append p [])

end FileWork

end Stepboard
