import Stepboard.Json.Value
import Stepboard.Session
import Stepboard.Text.Split
/-!
# Back ends

A back end makes the simulator that a session works on. It is named by a module and, after a colon,
a dotted path that leads from a member of the module to a member of that member, and so on, to
something that can be called. A back end is called at most once, and only when its name leads to it.
Names may hold halves of pairs, like the texts that they are looked up by.
-/

namespace Stepboard

/-- What a member of a module is: something that can be called or not, with members of its own, if
any. -/
structure Item (φ : Type) where
  call? : Option φ
  members : List (LooseText × Item φ)

namespace Item

variable {φ : Type}

def callable (f : φ) (members : List (LooseText × Item φ) := []) : Item φ :=
  ⟨some f, members⟩

def plain (members : List (LooseText × Item φ)) : Item φ :=
  ⟨none, members⟩

/-- A member of an item. -/
def member? (item : Item φ) (name : LooseText) : Option (Item φ) :=
  item.members.lookup name

/-- Follows names from an item, or gives the first that is no member. -/
def follow (item : Item φ) : List LooseText → Except LooseText (Item φ)
  | [] => .ok item
  | name :: names =>
    match item.member? name with
    | some next => next.follow names
    | none => .error name

end Item

/-- Why a module cannot be found. -/
inductive ModuleError where
  | unknown (name : LooseText)
  | notPackage (name parent : LooseText)
  deriving DecidableEq, Repr

def ModuleError.message : ModuleError → String
  | unknown name => "No module named " ++ name.quote
  | notPackage name parent =>
    "No module named " ++ name.quote ++ "; " ++ parent.quote ++ " is not a package"

/-- Why no simulator can be had. -/
inductive LoadError where
  | unset
  | notText (kind : String)
  | malformed (spec : LooseText)
  | relative (moduleName : LooseText)
  | noModule (moduleName : LooseText) (e : ModuleError)
  | noAttribute (spec name : LooseText)
  | notCallable (spec : LooseText)
  /-- The program or what it needs could not be read, or is faulty. -/
  | failed (program : Path) (message : String)
  /-- The back end itself says that it cannot load. -/
  | refused (message : String)
  /-- The back end broke down. -/
  | broken (message : String)
  deriving DecidableEq, Repr

namespace LoadError

def message : LoadError → String
  | unset =>
    "no simulator backend configured (set SPIMDASH_BACKEND or 'backend' in the config file)"
  | notText kind => Text.quote kind ++ " object has no attribute 'partition'"
  | malformed spec => "backend must look like 'module:callable', got " ++ spec.quote
  | relative moduleName =>
    "the 'package' argument is required to perform a relative import for " ++ moduleName.quote
  | noModule moduleName e =>
    "cannot import backend module " ++ moduleName.quote ++ ": " ++ e.message
  | noAttribute spec name => "backend " ++ spec.quote ++ " has no attribute " ++ name.quote
  | notCallable spec => "backend " ++ spec.quote ++ " is not callable"
  | failed program message => "failed to load " ++ program.toString ++ ": " ++ message
  | refused message => message
  | broken message => message

/-- Whether an error is told to the user; the others end the program where they arise. -/
def isReported : LoadError → Bool
  | notText _ | relative _ | broken _ => false
  | _ => true

end LoadError

/-- The modules that back ends are looked up in, by their full names, with their members. -/
abbrev Registry (φ : Type) := List (LooseText × List (LooseText × Item φ))

namespace Registry

variable {φ : Type}

/-- The member of a module that tells where the modules in it are. -/
def placeMember : LooseText := "__path__"

/-- Goes from a module to one that lies in it, and so on. -/
def enter (r : Registry φ) (name : LooseText) (members : List (LooseText × Item φ)) :
    List LooseText → Except ModuleError (List (LooseText × Item φ))
  | [] => .ok members
  | part :: parts =>
    let inner := name ++ "." ++ part
    match r.lookup inner with
    | some members => r.enter inner members parts
    | none =>
      .error (if (members.lookup placeMember).isSome then .unknown inner
        else .notPackage inner name)

/-- The members of a module. A name may not start with a dot. -/
def find (r : Registry φ) (moduleName : LooseText) :
    Except LoadError (List (LooseText × Item φ)) :=
  match moduleName.parts '.' with
  | first :: rest =>
    if first.isEmpty then .error (.relative moduleName)
    else
      match r.lookup first with
      | none => .error (.noModule moduleName (.unknown first))
      | some members => (r.enter first members rest).mapError (.noModule moduleName)
  | [] => .error (.relative moduleName)

/-- What can be called at the end of a path that a specification gives. -/
def reach (spec : LooseText) (module : Item φ) (path : List LooseText) : Except LoadError φ :=
  match module.follow path with
  | .error name => .error (.noAttribute spec name)
  | .ok item =>
    match item.call? with
    | some f => .ok f
    | none => .error (.notCallable spec)

/-- What a specification leads to. -/
def resolve (r : Registry φ) (spec : LooseText) : Except LoadError φ :=
  match Text.cutAt (.char ':') spec.symbols with
  | some (m :: ms, a :: as) =>
    match r.find (.ofSymbols (m :: ms)) with
    | .error e => .error e
    | .ok members => reach spec (.plain members) ((LooseText.ofSymbols (a :: as)).parts '.')
  | _ => .error (.malformed spec)

/-- What a setting leads to. Only a text leads anywhere. -/
def resolveSetting (r : Registry φ) : Json.Value → Except LoadError φ
  | .str spec => r.resolve spec
  | value => .error (.notText value.kind)

end Registry

/-- What a back end is asked: to load a program among the files as they are, with the log files to
write to. -/
structure LoadRequest where
  program : Path
  outputLog : Path
  messageLog : Path
  files : Files
  deriving DecidableEq, Repr

/-- A simulator that was made, the state it starts from, and the files, which are part of a state
and may be changed from outside. -/
structure Loaded (σ : Type) where
  host : Host σ
  world : σ
  files : σ → Files
  mapFiles : (Files → Files) → σ → σ

/-- How a back end fails. -/
inductive BackendError where
  | system (message : String)
  | fault (message : String)
  | refused (message : String)
  | broken (message : String)
  deriving DecidableEq, Repr

/-- What the failure of a back end means for a program. -/
def BackendError.toLoadError (program : Path) : BackendError → LoadError
  | system message | fault message => .failed program message
  | refused message => .refused message
  | broken message => .broken message

/-- A back end. -/
abbrev Backend (σ : Type) := LoadRequest → Except BackendError (Loaded σ)

/-- What came of loading: the simulator or why there is none, what back ends were asked, what was
noted, and the files with what was noted written down. -/
structure LoadReport (σ : Type) where
  result : Except LoadError (Loaded σ)
  requests : List LoadRequest := []
  notes : List Record := []
  files : Files

namespace Backend

variable {σ : Type}

/-- What is noted before a back end is called. -/
def loadNote (program : Path) (spec : LooseText) : Record :=
  ⟨.info, "dash_core.simulator", "loading " ++ program.text ++ " with backend " ++ spec⟩

/-- Loads a program with the back end that a setting names. What is noted is written down before
the back end is called. -/
def load (registry : Registry (Backend σ)) (record : Record → Files → Files) (setting : Json.Value)
    (request : LoadRequest) : LoadReport σ :=
  if !setting.isTrue then { result := .error .unset, files := request.files }
  else
    match registry.resolveSetting setting with
    | .error e => { result := .error e, files := request.files }
    | .ok backend =>
      let note := loadNote request.program setting.asText
      let request := { request with files := record note request.files }
      { result := (backend request).mapError (·.toLoadError request.program)
        requests := [request], notes := [note], files := request.files }

end Backend

end Stepboard
