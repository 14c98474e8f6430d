import Stepboard.Proofs.StepCount
import Stepboard.Simulator.Scripted
/-!
# When the program cannot go on

A step after which the program cannot go on ends the session if the simulator can then still tell
its program counter: the run takes no further key, makes no further step and leaves the address
behind. If it cannot, that failure takes the place of the halt and, being a fault, is shown like any
other, so that the session goes on.
-/

namespace Stepboard

variable {σ : Type}

/-- What is left to say of a program that cannot go on. -/
def breakpointMessage (pc : Int) : String :=
  "Breakpoint encountered at 0x" ++ Numeral.hexWord pc

namespace Simulator

variable {sim : Simulator σ} {w w' w'' : σ} {address pc : Int}

theorem guardedStep_of_halt (hr : sim.Ready w address w')
    (hstep : sim.step (singleStep address) w' = .ok false w'') :
    sim.guardedStep w =
      match sim.currentPc w'' with
      | .ok pc v =>
        { outcome := .ok ⟨.halted, address, breakpointMessage pc⟩, world := v,
          calls := [singleStep address] }
      | .error e v =>
        { outcome := .error e.toFailure, world := v, calls := [singleStep address] } := by
  rw [guardedStep_of_ready hr]
  unfold stepAt
  simp only [hstep]
  rcases sim.currentPc w'' with ⟨pc, v⟩ | ⟨e, v⟩ <;> rfl

end Simulator

namespace Session

variable {host : Host σ}

/-- Only an unreadable log file can keep the logs from being shown. -/
theorem refreshLogs_result (host : Host σ) (s : Session σ) :
    (s.refreshLogs host).result = .ok () ∨ ∃ e, (s.refreshLogs host).result = .error (.file e) := by
  have hlog : ∀ (id : LogId) (s : Session σ), (s.refreshLog host id).result = .ok ()
      ∨ ∃ e, (s.refreshLog host id).result = .error (.file e) := by
    intro id s
    unfold refreshLog
    dsimp only
    split
    · exact .inr ⟨_, rfl⟩
    · exact .inl rfl
  unfold refreshLogs Turn.andThen
  split
  · exact hlog .messages _
  · exact hlog .output s

section Halt

variable {s : Session σ} {key : String} {address : Int} {w w' : σ} (hk : s.Steps key)
  (hr : host.simulator.Ready s.world address w)
  (hhalt : host.simulator.step (singleStep address) w = .ok false w')

include hk hr hhalt

theorem handleKey_of_halt {pc : Int} {w'' : σ} (hpc : host.simulator.currentPc w' = .ok pc w'') :
    (s.handleKey host key).result = .ok false
      ∧ (s.handleKey host key).session.board.exitMessage = breakpointMessage pc
      ∧ (s.handleKey host key).session.calls = s.calls ++ [singleStep address] := by
  have hg := Simulator.guardedStep_of_halt hr hhalt
  rw [hpc] at hg
  rw [handleKey_of_steps host hk]
  rcases step_cases host s with ⟨o, ho, hne, -⟩ | ⟨o, ho, -, h⟩ | ⟨e, he, -⟩
  · obtain ⟨hgo, -⟩ := advance_ok host ho
    rw [hg] at hgo
    cases hgo
    exact absurd rfl hne
  · obtain ⟨hgo, hs⟩ := advance_ok host ho
    rw [h, hs]
    rw [hg] at hgo
    cases hgo
    refine ⟨rfl, exitMessage_takeOutcome host _ _,
      (calls_takeOutcome host (s.reported host) _).trans ?_⟩
    rw [calls_reported, hg]
  · rcases advance_cases host s with ⟨o, -, ha⟩ | ⟨e', he', -⟩
    · rw [ha] at he
      cases he
    · rw [hg] at he'
      cases he'

/-- With the program counter lost, the turn comes to what that failure comes to anywhere. -/
theorem handleKey_of_lost_pc {e : QueryError} {w'' : σ}
    (hpc : host.simulator.currentPc w' = .error e w'') :
    s.handleKey host key = settle host ⟨.error e.toFailure, s.reported host⟩ := by
  have hg := Simulator.guardedStep_of_halt hr hhalt
  rw [hpc] at hg
  rw [handleKey_of_steps host hk]
  congr 1
  rcases advance_cases host s with ⟨o, ho, -⟩ | ⟨e', he, ha⟩
  · rw [hg] at ho
    cases ho
  · rw [hg] at he
    cases he
    unfold step
    rw [ha]

/-- A fault in place of the program counter is shown, and does not end the session. -/
theorem handleKey_of_faulty_pc {message : String} {w'' : σ}
    (hpc : host.simulator.currentPc w' = .error (.fault message) w'') :
    ((s.handleKey host key).result = .ok true
        ∨ ∃ e, (s.handleKey host key).result = .error (.file e))
      ∧ (∃ text, (s.handleKey host key).session.board.overlay = some text ∧ text ≠ "")
      ∧ (s.handleKey host key).session.board.exitMessage = s.board.exitMessage
      ∧ (s.handleKey host key).session.calls = s.calls ++ [singleStep address] := by
  have hg := Simulator.guardedStep_of_halt hr hhalt
  rw [hpc] at hg
  have hi := idle_settle host ⟨.error (.fault message), s.reported host⟩
  rw [handleKey_of_lost_pc hk hr hhalt hpc]
  refine ⟨?_, ?_, ?_, ?_⟩
  · rcases refreshLogs_result host ((s.reported host).showFault host message) with
      h | ⟨e, h⟩
    · exact .inl (by simp [settle, QueryError.toFailure, goingOn, h, Except.map])
    · exact .inr ⟨e, by simp [settle, QueryError.toFailure, goingOn, h, Except.map]⟩
  · obtain ⟨text, ho, hne⟩ := overlay_showFault host (s.reported host) message
    exact ⟨text, (board_refreshLogs host _).2.trans ho, hne⟩
  · exact hi.exitMessage.trans (by rw [board_reported])
  · exact hi.calls.trans (by rw [calls_reported, hg])

theorem handleKey_over_iff :
    (s.handleKey host key).result = .ok false
      ↔ ∃ pc w'', host.simulator.currentPc w' = .ok pc w'' := by
  rcases hpc : host.simulator.currentPc w' with ⟨pc, w''⟩ | ⟨e, w''⟩
  · exact ⟨fun _ => ⟨pc, w'', rfl⟩, fun _ => (handleKey_of_halt hk hr hhalt hpc).1⟩
  · constructor
    · intro h
      cases e with
      | fault message =>
        obtain ⟨hgo | ⟨e, hgo⟩, -⟩ := handleKey_of_faulty_pc hk hr hhalt hpc
        · rw [hgo] at h
          cases h
        · rw [hgo] at h
          cases h
      | file e =>
        rw [handleKey_of_lost_pc hk hr hhalt hpc] at h
        cases h
    · rintro ⟨pc, v, h⟩
      cases h

end Halt

/-- The session in which the loop waits for its next key once it has taken some. -/
def waits (host : Host σ) (s : Session σ) : List String → Option (Session σ)
  | [] => some s.compose.1
  | key :: keys =>
    let t := s.compose.1.handleKey host key
    match t.result with
    | .ok true => waits host t.session keys
    | .ok false | .error _ => none

/-- The session in which a run waits for its next key once it has begun and taken some. -/
def awaiting (host : Host σ) (s : Session σ) (keys : List String) : Option (Session σ) :=
  let t := s.start host
  match t.result with
  | .ok _ => t.session.waits host keys
  | .error _ => none

/-- How the loop goes on from a turn when there are still keys left. -/
def resume (host : Host σ) (t : Turn σ Bool) (keys : List String) : Run σ :=
  match t.result with
  | .ok true => t.session.loop host keys
  | .ok false => { result := .ok (), session := t.session, keysLeft := keys }
  | .error e => { result := .error e, session := t.session, keysLeft := keys }

theorem loop_of_waits (key : String) (rest : List String) : ∀ {before : List String}
    {s s' : Session σ}, s.waits host before = some s' →
    ∃ frames, s.loop host (before ++ key :: rest)
      = { resume host (s'.handleKey host key) rest with frames }
  | [], s, s', h => by
    cases h
    simp only [List.nil_append, loop, resume]
    rcases hk : (s.compose.1.handleKey host key).result with e | (_ | _) <;> exact ⟨_, rfl⟩
  | k :: ks, s, s', h => by
    -- The loop still waits for a key, so it went on after this one.
    rcases hk : (s.compose.1.handleKey host k).result with e | (_ | _) <;>
      simp only [waits, hk, reduceCtorEq] at h
    obtain ⟨frames, hloop⟩ := loop_of_waits key rest h
    simp only [List.cons_append, loop, hk, hloop]
    exact ⟨_, rfl⟩

theorem run_of_awaiting {s s' : Session σ} {before : List String} (key : String)
    (rest : List String) (h : s.awaiting host before = some s') :
    ∃ frames, s.run host (before ++ key :: rest)
      = Run.finish host { resume host (s'.handleKey host key) rest with frames } := by
  rcases hs : (s.start host).result with e | b <;> simp only [awaiting, hs, reduceCtorEq] at h
  obtain ⟨frames, hloop⟩ := loop_of_waits key rest h
  simp only [run, play, hs, hloop]
  exact ⟨frames, rfl⟩

/-- When a run takes a step key after which the program cannot go on, the session is over exactly
if the simulator can still tell its program counter. Then no further key is taken and no further
step made, the exit code is that of a session that ended well, and the address is left behind. If a
fault takes the place of the program counter, it is shown and nothing is left behind, and unless a
log file cannot be read, the run goes on with the next key. -/
theorem halt_ends_run_iff_pc_told {program : String} {width height : Int} {options : ViewOptions}
    {world : σ} {before : List String} {s : Session σ} {key : String} {address : Int} {w w' : σ}
    (rest : List String)
    (hs : (fresh program width height options world).awaiting host before = some s)
    (hk : s.Steps key) (hr : host.simulator.Ready s.world address w)
    (hhalt : host.simulator.step (singleStep address) w = .ok false w') :
    let t := s.handleKey host key
    let finish := (fresh program width height options world).run host (before ++ key :: rest)
    (t.result = .ok false ↔ ∃ pc w'', host.simulator.currentPc w' = .ok pc w'')
      ∧ (∀ pc w'', host.simulator.currentPc w' = .ok pc w'' →
          finish.code = .ok exitOk ∧ finish.keysLeft = rest
            ∧ finish.session.board.exitMessage
              = "Breakpoint encountered at 0x" ++ Numeral.hexWord pc
            ∧ finish.session.calls = s.calls ++ [⟨address, 1, false, true⟩])
      ∧ ∀ message w'', host.simulator.currentPc w' = .error (.fault message) w'' →
          (∃ text, t.session.board.overlay = some text ∧ text ≠ "")
            ∧ t.session.board.exitMessage = s.board.exitMessage
            ∧ ((∃ e, t.result = .error (.file e)) ∨ t.result = .ok true
              ∧ ∃ frames, finish = Run.finish host { t.session.loop host rest with frames }) := by
  intro t finish
  obtain ⟨frames, hrun⟩ := run_of_awaiting key rest hs
  refine ⟨handleKey_over_iff hk hr hhalt, fun pc w'' hpc => ?_, fun message w'' hpc => ?_⟩
  · obtain ⟨hover, hexit, hcalls⟩ := handleKey_of_halt hk hr hhalt hpc
    have hfinish : finish = ⟨.ok exitOk, t.session.release, frames, rest⟩ := by
      simp only [finish, hrun, resume, hover, Run.finish]
      rfl
    rw [hfinish]
    exact ⟨rfl, rfl, hexit, hcalls⟩
  · obtain ⟨hgo, hoverlay, hexit, -⟩ := handleKey_of_faulty_pc hk hr hhalt hpc
    refine ⟨hoverlay, hexit, ?_⟩
    rcases hgo with hgo | ⟨e, hgo⟩
    · refine .inr ⟨hgo, frames, ?_⟩
      simp only [finish, hrun, resume, hgo]
      rfl
    · exact .inl ⟨e, hgo⟩

end Session

namespace Scripted

/-- A machine that halts at its first step and refuses some questions from then on. -/
def halting (faults : List (Method × String)) : Bench where
  events := [{ change := fun m => { m with faults }, halt := true }]
  files := { workingPlace := [] }
  outputLog := Path.ofString "out.log"
  messageLog := Path.ofString "msg.log"

def haltingHost : Host Bench :=
  host (Path.ofString "out.log") (Path.ofString "msg.log")

def haltingSession (faults : List (Method × String)) : Session Bench :=
  .fresh "p.s" 60 22 {} (halting faults)

theorem ready_of_no_faults {b : Bench} (hf : b.machine.faults = []) (hpc : b.machine.pc ≠ 0)
    (hu : Text.strip b.machine.undefined = "") : simulator.Ready b b.machine.pc b := by
  refine ⟨b, b.machine.undefined, ?_, hpc, ?_, hu⟩ <;>
    simp [simulator, Bench.askBy, hf, Machine.find?]

/-- The session on a machine that halts, once a key that does nothing was taken. -/
def atHalt : Session Bench :=
  ((haltingSession []).awaiting haltingHost ["x"]).get (by decide +kernel)

/-- The program halts, and its address is left behind. -/
theorem run_ends_of_halting :
    let finish := (haltingSession []).run haltingHost ["x", "s", "x", "q"]
    finish.code = .ok exitOk ∧ finish.keysLeft = ["x", "q"]
      ∧ finish.session.board.exitMessage = "Breakpoint encountered at 0x00400004"
      ∧ finish.session.calls = [⟨0x400000, 1, false, true⟩] := by
  have hs : (haltingSession []).awaiting haltingHost ["x"] = some atHalt :=
    (Option.some_get _).symm
  have hpc : atHalt.world.machine.pc = 0x400000 := by decide +kernel
  have hready : simulator.Ready atHalt.world 0x400000 atHalt.world :=
    hpc ▸ ready_of_no_faults (by decide +kernel) (by decide +kernel) (by decide +kernel)
  obtain ⟨b, hb⟩ := (simulator.answerTo_eq_some_iff (singleStep 0x400000) atHalt.world false).1
    (by decide +kernel)
  have hb' : (match simulator.step (singleStep 0x400000) atHalt.world with
      | .ok _ w => (w.machine.faults, w.machine.pc)
      | .error _ _ => ([], 0)) = ([], 0x400004) := by decide +kernel
  rw [hb, Prod.mk.injEq] at hb'
  have hpc' : simulator.currentPc b = .ok 0x400004 b := by
    simp [simulator, Bench.askBy, hb'.1, hb'.2, Machine.find?]
  have hkey : atHalt.Steps "s" := by decide +kernel
  obtain ⟨hcode, hkeys, hexit, hcalls⟩ :=
    (Session.halt_ends_run_iff_pc_told ["x", "q"] hs hkey hready hb).2.1 0x400004 b hpc'
  refine ⟨hcode, hkeys, hexit.trans (by decide +kernel), hcalls.trans ?_⟩
  rw [show atHalt.calls = [] by decide +kernel]
  rfl

/-- With the program counter lost as the program halts, the run goes on to the quit key and leaves
nothing behind. -/
theorem run_goes_on_of_lost_pc :
    let s := ((haltingSession [(.currentPc, "lost")]).start haltingHost).session
    let finish := (haltingSession [(.currentPc, "lost")]).run haltingHost ["s", "x", "q"]
    s.Steps "s"
      ∧ simulator.answerTo ⟨0x400000, 1, false, true⟩ s.world = some false
      ∧ (s.handleKey haltingHost "s").session.calls = [⟨0x400000, 1, false, true⟩]
      ∧ (s.handleKey haltingHost "s").result = .ok true
      ∧ finish.code = .ok exitOk ∧ finish.keysLeft = []
      ∧ finish.session.board.exitMessage = "" := by
  decide +kernel

end Scripted

end Stepboard
