import Stepboard.Text.Loose
/-!
# Paths

A path is a root and the names below it, without empty names and without single dots; double dots
stay, since what they lead to depends on the files. Two leading slashes, and no other number, are a
root of their own. A path can be written that no file can have: one with a NUL, or with half of a
pair that stands for no byte.
-/

namespace Stepboard

/-- A path. The root is empty, one slash or two. -/
structure Path where
  root : String := ""
  names : List LooseText := []
  deriving DecidableEq, Repr

namespace Path

/-- The root that a text begins with. -/
def rootOf : List Char → String
  | '/' :: '/' :: '/' :: _ => "/"
  | '/' :: '/' :: _ => "//"
  | '/' :: _ => "/"
  | _ => ""

/-- Reads a path. -/
def ofText (t : LooseText) : Path where
  root := rootOf t.leading
  names := (t.parts '/').filter fun name => name != "" && name != "."

/-- Reads a path from a text without halves. -/
def ofString (s : String) : Path :=
  ofText s

/-- The text of a path; one without root and names is a dot. -/
def text (p : Path) : LooseText :=
  let t := p.root ++ LooseText.intercalate "/" p.names
  if t.isEmpty then "." else t

/-- The text of a path as it is shown. -/
def toString (p : Path) : String :=
  p.text.shown

/-- Whether a text ends, after its last slash, in nothing or in a dot, which are no names. -/
def endsInDirectory (s : String) : Bool :=
  match (Text.parts '/' s).getLast? with
  | some last => last == "" || last == "."
  | none => true

/-- Whether no file can have a path. -/
def isImpossible (p : Path) : Bool :=
  p.names.any LooseText.isImpossible

/-- Whether a path starts at a root. -/
def isAbsolute (p : Path) : Bool :=
  !p.root.isEmpty

/-- A path seen from another; an absolute path stays. -/
def join (base p : Path) : Path :=
  if p.isAbsolute then p else { base with names := base.names ++ p.names }

/-- The last name of a path, as it is shown. -/
def name (p : Path) : String :=
  (p.names.getLast?.getD "").shown

/-- The path that a path lies in; a root or the empty path lies in itself. -/
def parent (p : Path) : Path :=
  { p with names := p.names.dropLast }

/-- Takes away double dots together with the names before them. -/
def collapse (p : Path) : Path :=
  { p with
    names := p.names.foldl
      (fun names (name : LooseText) =>
        if name != ".." then names ++ [name]
        else if names.isEmpty then if p.isAbsolute then [] else [name]
        else if names.getLast? == some name then names ++ [name]
        else names.dropLast) [] }

end Path

end Stepboard
