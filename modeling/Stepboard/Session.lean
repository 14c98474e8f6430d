import Stepboard.Board.Basic
import Stepboard.Key.Action
import Stepboard.Simulator.Step
/-!
# Sessions

A session drives the board by keys. A step key steps the simulator and then shows its state, a quit
key or a program that cannot go on ends the session, and the other keys only look around. A fault,
wherever it arises, is shown in a box that takes the next key; nothing of a state is shown unless
all of it could be read.
-/

namespace Stepboard

/-- What a session works on: a simulator, and its log files, whose contents depend on the state that
the simulator is part of. What is noted may be written down in that state as well, even in the log
files themselves. -/
structure Host (σ : Type) where
  simulator : Simulator σ
  logPath : LogId → LooseText
  logFile : LogId → σ → LogFile
  record : Record → σ → σ := fun _ world => world

/-- A session: the board, the state of the world, the steps asked of the simulator so far, and what
was noted. -/
structure Session (σ : Type) where
  board : Board
  world : σ
  calls : List StepCall := []
  notes : List Record := []

/-- What some work left behind, and its value or what stopped it. -/
structure Turn (σ α : Type) where
  result : Except Failure α
  session : Session σ

/-- Goes on with other work unless something stopped this one. -/
def Turn.andThen {σ : Type} (t : Turn σ Unit) (next : Session σ → Turn σ Unit) : Turn σ Unit :=
  match t.result with
  | .ok _ => next t.session
  | .error _ => t

namespace Session

variable {σ : Type}

/-- Takes note of a record. -/
def note (host : Host σ) (s : Session σ) (r : Record) : Session σ :=
  { s with world := host.record r s.world, notes := s.notes ++ [r] }

/-- Takes note of records one after the other. -/
def noteAll (host : Host σ) (s : Session σ) (records : List Record) : Session σ :=
  records.foldl (note host) s

/-- A record of the session itself. -/
def ownRecord (level : Level) (message : String) : Record :=
  ⟨level, "dash_core.dashboard", message⟩

/-- Lays the fault box over the panes. -/
def showFault (host : Host σ) (s : Session σ) (message : String) : Session σ :=
  let s := s.note host (ownRecord .warning ("simulator fault: " ++ message))
  { s with board := s.board.showFault message }

/-- Reads the simulator, and lets the board take what was read. -/
def pull (s : Session σ) {α : Type} (reading : Reading σ α) (use : Board → α → Board) :
    Turn σ Unit :=
  match reading s.world with
  | .ok a world => ⟨.ok (), { s with world, board := use s.board a }⟩
  | .error e world => ⟨.error e, { s with world }⟩

/-- Shows the state of the simulator. -/
def refresh (host : Host σ) (s : Session σ) : Turn σ Unit :=
  s.pull (host.simulator.snapshot s.board.options s.board.listing) Board.showSnapshot

/-- Shows one log file. -/
def refreshLog (host : Host σ) (id : LogId) (s : Session σ) : Turn σ Unit :=
  let file := host.logFile id s.world
  match file.failure? (host.logPath id) with
  | some e => ⟨.error (.file e), s⟩
  | none =>
    let notes := file.notes (host.logPath id) (s.board.panes id.pane).innerHeight
    ⟨.ok (), { s.noteAll host notes with board := s.board.showLog id file }⟩

/-- Shows the log files. -/
def refreshLogs (host : Host σ) (s : Session σ) : Turn σ Unit :=
  (s.refreshLog host .output).andThen (refreshLog host .messages)

/-- Work whose value is that the session goes on. -/
def goingOn (t : Turn σ Unit) : Turn σ Bool :=
  ⟨t.result.map fun _ => true, t.session⟩

/-- Ends a turn: a fault is shown and the session goes on, and the logs are shown unless the session
is over. -/
def settle (host : Host σ) (t : Turn σ Bool) : Turn σ Bool :=
  match t.result with
  | .ok true => goingOn (t.session.refreshLogs host)
  | .error (.fault message) => goingOn ((t.session.showFault host message).refreshLogs host)
  | .ok false | .error _ => t

/-- Reads the listing. -/
def readListing (host : Host σ) (s : Session σ) : Turn σ Unit :=
  s.pull host.simulator.currentListing fun b lines => { b with listing := lines }

/-- Reads the listing and shows the first state. -/
def load (host : Host σ) (s : Session σ) : Turn σ Unit :=
  (s.readListing host).andThen (refresh host)

/-- Begins a session. -/
def start (host : Host σ) (s : Session σ) : Turn σ Bool :=
  settle host (goingOn (load host { s with board := s.board.resetStreams }))

/-- Takes over what a step came to. -/
def takeOutcome (host : Host σ) (s : Session σ) (outcome : StepOutcome) : Session σ :=
  let s := s.note host (ownRecord .debug ("step " ++ outcome.describe))
  match outcome.status with
  | .halted =>
    let s := { s with board := { s.board with exitMessage := outcome.message } }
    s.note host (ownRecord .info ("session ended: " ++ outcome.message))
  | .fault => s.showFault host outcome.message
  | .ok => { s with board := { s.board with steps := s.board.steps + 1 } }

/-- Has the simulator step, and tells what came of it. -/
def advance (host : Host σ) (s : Session σ) : Turn σ StepOutcome :=
  let report := host.simulator.guardedStep s.world
  let s := { s with world := report.world, calls := s.calls ++ report.calls }
  let s := s.noteAll host report.notes
  match report.outcome with
  | .ok outcome => ⟨.ok outcome, s.takeOutcome host outcome⟩
  | .error e => ⟨.error e, s⟩

/-- Steps the simulator and shows its state, unless the program has ended. -/
def step (host : Host σ) (s : Session σ) : Turn σ Bool :=
  let t := s.advance host
  match t.result with
  | .ok outcome =>
    if outcome.continuable then goingOn (t.session.refresh host) else ⟨.ok false, t.session⟩
  | .error e => ⟨.error e, t.session⟩

/-- Does what a key does while no fault box is up. -/
def act (host : Host σ) (s : Session σ) : Action → Turn σ Bool
  | .quit => ⟨.ok false, s⟩
  | .step => settle host (s.step host)
  | action => settle host ⟨.ok true, { s with board := s.board.look action }⟩

/-- Takes a key, and tells whether the session goes on. A fault box takes any key, and a quit key
quits all the same. -/
def handleKey (host : Host σ) (s : Session σ) (key : String) : Turn σ Bool :=
  let action := Action.ofKey key
  match s.board.overlay with
  | some _ => ⟨.ok (action != .quit), { s with board := s.board.dismiss }⟩
  | none => s.act host action

/-- Draws the screen. -/
def compose (s : Session σ) : Session σ × Layout Drawing :=
  let (board, screen) := s.board.compose
  ({ s with board }, screen)

end Session

/-- How a session went: what stopped it if it did not end by itself, the screens drawn, and the keys
not taken. -/
structure Run (σ : Type) where
  result : Except Failure Unit
  session : Session σ
  frames : List (Layout Drawing) := []
  keysLeft : List String := []

namespace Session

variable {σ : Type}

/-- Draws the screen and takes keys until the session ends. -/
def loop (host : Host σ) (s : Session σ) : List String → Run σ
  | [] =>
    let (s, screen) := s.compose
    { result := .ok (), session := s, frames := [screen] }
  | key :: keys =>
    let (s, screen) := s.compose
    let t := s.handleKey host key
    match t.result with
    | .ok true =>
      let r := loop host t.session keys
      { r with frames := screen :: r.frames }
    | .ok false => { result := .ok (), session := t.session, frames := [screen], keysLeft := keys }
    | .error e => { result := .error e, session := t.session, frames := [screen], keysLeft := keys }

/-- Begins a session and takes keys until it ends. -/
def play (host : Host σ) (s : Session σ) (keys : List String) : Run σ :=
  let t := s.start host
  match t.result with
  | .ok _ => loop host t.session keys
  | .error e => { result := .error e, session := t.session, keysLeft := keys }

end Session

/-- The exit code of a session that ended by itself, and of one that undefined symbols ended. -/
def exitOk : Nat := 0
def exitFatal : Nat := 1

/-- A finished session: its exit code, or the failure that is none of its own business. -/
structure Finish (σ : Type) where
  code : Except Failure Nat
  session : Session σ
  frames : List (Layout Drawing)
  keysLeft : List String

namespace Session

variable {σ : Type}

/-- Gives the panes up. -/
def release (s : Session σ) : Session σ :=
  { s with board := s.board.release }

end Session

/-- How a session that went so is finished: undefined symbols are told when it is over. -/
def Run.finish {σ : Type} (host : Host σ) (r : Run σ) : Finish σ :=
  let leave (code : Except Failure Nat) (s : Session σ) : Finish σ :=
    ⟨code, s.release, r.frames, r.keysLeft⟩
  match r.result with
  | .ok _ => leave (.ok exitOk) r.session
  | .error (.undefined address symbols) =>
    let message := (Failure.undefined address symbols).message
    let s := r.session.note host (Session.ownRecord .error ("fatal: " ++ message))
    leave (.ok exitFatal) { s with board := { s.board with exitMessage := message } }
  | .error e => leave (.error e) r.session

/-- Runs a session on a sequence of keys to its end. -/
def Session.run {σ : Type} (host : Host σ) (s : Session σ) (keys : List String) : Finish σ :=
  (s.play host keys).finish host

end Stepboard
