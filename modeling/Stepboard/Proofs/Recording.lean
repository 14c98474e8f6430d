import Mathlib.Data.List.Induction
import Stepboard.Proofs.Related
import Stepboard.Proofs.Steps
/-!
# Recording simulators

Any simulator can be made to keep a record of the steps that it is asked for and of what it says to
each. A session on the recording simulator is the session on the simulator itself, with the record
beside its world (`after_recording`), and only a key that is taken as a step adds to the record
(`handleKey_recording`).
-/

namespace Stepboard

/-- A step asked of a simulator, and whether the simulator said that the program can go on; a step
that failed has no answer. -/
structure AskedStep where
  call : StepCall
  answer : Option Bool
  deriving DecidableEq, Repr

/-- A world, and the steps asked of the simulator in it so far. -/
structure Recorded (σ : Type) where
  world : σ
  asked : List AskedStep := []

variable {σ : Type}

/-- What comes of a question when a record stands beside the world. -/
def recordedResult {ε α : Type} (asked : List AskedStep) :
    EStateM.Result ε σ α → EStateM.Result ε (Recorded σ) α
  | .ok a w => .ok a ⟨w, asked⟩
  | .error e w => .error e ⟨w, asked⟩

/-- A question that leaves the record alone. -/
def Query.recorded {α : Type} (q : Query σ α) : Query (Recorded σ) α := fun r =>
  recordedResult r.asked (q r.world)

/-- A simulator that keeps a record of its steps. -/
def Simulator.recording (sim : Simulator σ) : Simulator (Recorded σ) where
  currentPc := Query.recorded sim.currentPc
  step call r :=
    match sim.step call r.world with
    | .ok goesOn w => .ok goesOn ⟨w, r.asked ++ [⟨call, some goesOn⟩]⟩
    | .error e w => .error e ⟨w, r.asked ++ [⟨call, none⟩]⟩
  formatRegisters hex := Query.recorded (sim.formatRegisters hex)
  disassemble start := Query.recorded (sim.disassemble start)
  instructionAt address := Query.recorded (sim.instructionAt address)
  readWord address := Query.recorded (sim.readWord address)
  readByte address := Query.recorded (sim.readByte address)
  undefinedSymbols := Query.recorded sim.undefinedSymbols
  dataSegment := Query.recorded sim.dataSegment
  stackSegment := Query.recorded sim.stackSegment
  kernelDataSegment := Query.recorded sim.kernelDataSegment

def Host.recording (host : Host σ) : Host (Recorded σ) where
  simulator := host.simulator.recording
  logPath := host.logPath
  logFile log r := host.logFile log r.world
  record note r := { r with world := host.record note r.world }

def Event.recorded : Event σ → Event (Recorded σ)
  | .key name => .key name
  | .draw => .draw
  | .outside change => .outside fun r => { r with world := change r.world }

namespace Session

def recorded (s : Session σ) (asked : List AskedStep) : Session (Recorded σ) :=
  { board := s.board, world := ⟨s.world, asked⟩, calls := s.calls, notes := s.notes }

end Session

def Turn.recorded {α : Type} (t : Turn σ α) (asked : List AskedStep) : Turn (Recorded σ) α :=
  ⟨t.result, t.session.recorded asked⟩

def ReadingRel.recorded : ReadingRel (Recorded σ) σ where
  Rel r q := ∀ w asked, r ⟨w, asked⟩ = recordedResult asked (q w)
  pure _ _ _ := rfl
  bind {α β x y f g} hx hf w asked := by
    simp only [Bind.bind, EStateM.bind, hx w asked]
    rcases y w with ⟨a, w'⟩ | ⟨e, w'⟩
    · exact hf a w' asked
    · rfl
  throw _ _ _ := rfl

theorem recorded_lift {α : Type} (q : Query σ α) :
    ReadingRel.recorded.Rel (Query.recorded q).lift q.lift := by
  intro w asked
  simp only [Query.lift, Query.recorded]
  rcases q w with ⟨a, w'⟩ | ⟨e, w'⟩ <;> rfl

theorem Simulator.related_recording (sim : Simulator σ) :
    sim.recording.Related ReadingRel.recorded sim where
  currentPc := recorded_lift _
  formatRegisters _ := recorded_lift _
  disassemble _ := recorded_lift _
  instructionAt _ := recorded_lift _
  readWord _ := recorded_lift _
  readByte _ := recorded_lift _
  dataSegment := recorded_lift _
  stackSegment := recorded_lift _
  kernelDataSegment := recorded_lift _

namespace Simulator

variable (sim : Simulator σ)

/-- What the simulator says to a step; a step that fails is not answered. -/
def answerTo (call : StepCall) (w : σ) : Option Bool :=
  match sim.step call w with
  | .ok goesOn _ => some goesOn
  | .error _ _ => none

theorem answerTo_eq_some_iff (call : StepCall) (w : σ) (goesOn : Bool) :
    sim.answerTo call w = some goesOn ↔ ∃ w', sim.step call w = .ok goesOn w' := by
  unfold answerTo
  split <;> rename_i h <;> simp [h]

theorem stepAt_recording (address : Int) (w : σ) (asked : List AskedStep) :
    sim.recording.stepAt address ⟨w, asked⟩ =
      { outcome := (sim.stepAt address w).outcome
        world := ⟨(sim.stepAt address w).world,
          asked ++ [⟨singleStep address, sim.answerTo (singleStep address) w⟩]⟩
        calls := (sim.stepAt address w).calls
        notes := (sim.stepAt address w).notes } := by
  simp only [stepAt, answerTo, recording, Query.recorded, recordedResult]
  rcases hs : sim.step (singleStep address) w with ⟨b, w'⟩ | ⟨e, w'⟩
  · cases b with
    | true => rfl
    | false => rcases hp : sim.currentPc w' with ⟨pc, w''⟩ | ⟨e, w''⟩ <;> simp [hp]
  · cases e <;> rfl

/-- The steps that a guarded step asks for, with their answers. -/
def asks (w : σ) : List AskedStep :=
  (sim.recording.guardedStep ⟨w, []⟩).world.asked

/-- A guarded step of a recording simulator is that of the simulator, and records what it asks. -/
theorem guardedStep_recording (w : σ) (asked : List AskedStep) :
    sim.recording.guardedStep ⟨w, asked⟩ =
      { outcome := (sim.guardedStep w).outcome
        world := ⟨(sim.guardedStep w).world, asked ++ sim.asks w⟩
        calls := (sim.guardedStep w).calls
        notes := (sim.guardedStep w).notes } := by
  unfold asks guardedStep
  simp only [show sim.recording.currentPc = Query.recorded sim.currentPc from rfl,
    show sim.recording.undefinedSymbols = Query.recorded sim.undefinedSymbols from rfl,
    Query.recorded, recordedResult]
  rcases hp : sim.currentPc w with ⟨pc, w'⟩ | ⟨e, w'⟩
  · by_cases h0 : pc = 0
    · simp [h0]
    · rcases hu : sim.undefinedSymbols w' with ⟨text, w''⟩ | ⟨e, w''⟩
      · by_cases hb : (Text.strip text).isEmpty
        · simp only [h0, hu, hb, if_true, if_false, stepAt_recording, List.nil_append]
        · simp [h0, hu, hb]
      · simp [h0, hu]
  · simp

end Simulator

namespace Session

variable (host : Host σ)

theorem recorded_noteAll (asked : List AskedStep) : ∀ (records : List Record) (s : Session σ),
    (s.recorded asked).noteAll host.recording records = (s.noteAll host records).recorded asked
  | [], _ => rfl
  | r :: rest, s => recorded_noteAll asked rest (s.note host r)

theorem recorded_andThen {t : Turn σ Unit} {next : Session σ → Turn σ Unit}
    {next' : Session (Recorded σ) → Turn (Recorded σ) Unit} {asked : List AskedStep}
    (h : ∀ s, next' (s.recorded asked) = (next s).recorded asked) :
    (t.recorded asked).andThen next' = (t.andThen next).recorded asked := by
  obtain ⟨result, s⟩ := t
  cases result with
  | ok u => exact h s
  | error e => rfl

theorem recorded_pull {α : Type} {reading : Reading σ α} {reading' : Reading (Recorded σ) α}
    (h : ReadingRel.recorded.Rel reading' reading) (s : Session σ) (asked : List AskedStep)
    (use : Board → α → Board) :
    (s.recorded asked).pull reading' use = (s.pull reading use).recorded asked := by
  simp only [pull, recorded, h s.world asked]
  rcases reading s.world with ⟨a, w⟩ | ⟨e, w⟩ <;> rfl

theorem recorded_refresh (s : Session σ) (asked : List AskedStep) :
    (s.recorded asked).refresh host.recording = (s.refresh host).recorded asked :=
  recorded_pull (Simulator.related_snapshot host.simulator.related_recording _ _) s asked _

theorem recorded_readListing (s : Session σ) (asked : List AskedStep) :
    (s.recorded asked).readListing host.recording = (s.readListing host).recorded asked :=
  recorded_pull (Simulator.related_currentListing host.simulator.related_recording) s asked _

theorem recorded_load (s : Session σ) (asked : List AskedStep) :
    (s.recorded asked).load host.recording = (s.load host).recorded asked := by
  unfold load
  rw [recorded_readListing]
  exact recorded_andThen fun s => recorded_refresh host s asked

theorem recorded_refreshLog (id : LogId) (s : Session σ) (asked : List AskedStep) :
    (s.recorded asked).refreshLog host.recording id = (s.refreshLog host id).recorded asked := by
  simp only [refreshLog]
  rw [show host.recording.logFile id (s.recorded asked).world = host.logFile id s.world from rfl,
    show host.recording.logPath = host.logPath from rfl]
  split
  · rfl
  · rw [recorded_noteAll]
    rfl

theorem recorded_refreshLogs (s : Session σ) (asked : List AskedStep) :
    (s.recorded asked).refreshLogs host.recording = (s.refreshLogs host).recorded asked := by
  unfold refreshLogs
  rw [recorded_refreshLog]
  exact recorded_andThen fun s => recorded_refreshLog host .messages s asked

theorem recorded_settle (t : Turn σ Bool) (asked : List AskedStep) :
    settle host.recording (t.recorded asked) = (settle host t).recorded asked := by
  have hlogs : ∀ s : Session σ, goingOn ((s.recorded asked).refreshLogs host.recording)
      = (goingOn (s.refreshLogs host)).recorded asked := by
    intro s
    rw [recorded_refreshLogs]
    rfl
  obtain ⟨result, s⟩ := t
  rcases result with e | b
  · cases e with
    | fault message => exact hlogs (s.showFault host message)
    | file _ | undefined _ _ | inverted _ | unsupported _ => rfl
  · cases b with
    | true => exact hlogs s
    | false => rfl

theorem recorded_start (s : Session σ) (asked : List AskedStep) :
    (s.recorded asked).start host.recording = (s.start host).recorded asked := by
  unfold start
  rw [← recorded_settle]
  congr 1
  exact congrArg goingOn (recorded_load host { s with board := s.board.resetStreams } asked)

theorem recorded_takeOutcome (s : Session σ) (asked : List AskedStep) (o : StepOutcome) :
    (s.recorded asked).takeOutcome host.recording o = (s.takeOutcome host o).recorded asked := by
  unfold takeOutcome
  dsimp only
  split <;> rfl

/-- Only here is a step asked for. -/
theorem recorded_advance (s : Session σ) (asked : List AskedStep) :
    (s.recorded asked).advance host.recording =
      ⟨(s.advance host).result,
        (s.advance host).session.recorded (asked ++ host.simulator.asks s.world)⟩ := by
  have hg := host.simulator.guardedStep_recording s.world asked
  simp only [advance, show host.recording.simulator = host.simulator.recording from rfl,
    show (s.recorded asked).world = ⟨s.world, asked⟩ from rfl, hg]
  have hnotes := recorded_noteAll host (asked ++ host.simulator.asks s.world)
    (host.simulator.guardedStep s.world).notes
    { s with world := (host.simulator.guardedStep s.world).world,
             calls := s.calls ++ (host.simulator.guardedStep s.world).calls }
  simp only [recorded] at hnotes ⊢
  rw [hnotes]
  rcases (host.simulator.guardedStep s.world).outcome with e | o
  · rfl
  · simp only []
    rw [← recorded, recorded_takeOutcome]
    rfl

/-- What a key has asked of the simulator. -/
def asks (s : Session σ) (key : String) : List AskedStep :=
  if s.Steps key then host.simulator.asks s.world else []

theorem recorded_step (s : Session σ) (asked : List AskedStep) :
    (s.recorded asked).step host.recording =
      (s.step host).recorded (asked ++ host.simulator.asks s.world) := by
  simp only [step, recorded_advance]
  rcases (s.advance host).result with e | o
  · rfl
  · simp only []
    split_ifs
    · rw [recorded_refresh]
      rfl
    · rfl

theorem handleKey_recording (s : Session σ) (asked : List AskedStep) (key : String) :
    (s.recorded asked).handleKey host.recording key =
      (s.handleKey host key).recorded (asked ++ s.asks host key) := by
  unfold asks
  split_ifs with hk
  · have hk' : (s.recorded asked).Steps key := hk
    rw [handleKey_of_steps _ hk', handleKey_of_steps _ hk, recorded_step, recorded_settle]
  · rw [List.append_nil]
    simp only [handleKey, show (s.recorded asked).board = s.board from rfl]
    split
    · rfl
    · rename_i up
      have hne : Action.ofKey key ≠ .step := fun h => hk ⟨up, h⟩
      rw [act_of_ne_step _ _ hne, act_of_ne_step _ _ hne]
      split_ifs
      · rfl
      · exact recorded_settle host
          ⟨.ok true, { s with board := s.board.look (Action.ofKey key) }⟩ asked

def asksOf (s : Session σ) : Event σ → List AskedStep
  | .key name => s.asks host name
  | .draw | .outside _ => []

theorem afterEvent_recording (s : Session σ) (asked : List AskedStep) (event : Event σ) :
    (s.recorded asked).afterEvent host.recording event.recorded =
      (s.afterEvent host event).recorded (asked ++ s.asksOf host event) := by
  cases event with
  | key name => exact congrArg Turn.session (handleKey_recording host s asked name)
  | draw =>
    simp only [asksOf, List.append_nil]
    rfl
  | outside change =>
    simp only [asksOf, List.append_nil]
    rfl

/-- A session on a recording simulator is that on the simulator with a record beside its world. -/
theorem after_recording (s : Session σ) (asked : List AskedStep) (events : List (Event σ)) :
    (s.recorded asked).after host.recording (events.map Event.recorded) =
      (s.after host events).recorded
        ((s.recorded asked).after host.recording (events.map Event.recorded)).world.asked := by
  -- The last event meets a session that is already a recorded one.
  induction events using List.reverseRecOn with
  | nil =>
    simp only [after, List.map_nil, List.foldl_nil, recorded_start]
    rfl
  | append_singleton events event ih =>
    simp only [after, List.map_append, List.map_cons, List.map_nil, List.foldl_append,
      List.foldl_cons, List.foldl_nil] at ih ⊢
    rw [ih, afterEvent_recording]
    rfl

end Session

end Stepboard
