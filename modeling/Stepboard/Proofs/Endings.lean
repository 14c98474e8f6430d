import Stepboard.Proofs.Faults
import Stepboard.Proofs.Halts
/-!
# How a session ends

A run takes its keys up to the first after which the session does not go on (`run_cases`), and gives
the panes up whatever ended it. With a simulator that only faults, its data segments in order, and
log files that can be asked about, it ends well, but for symbols that are undefined as a key steps
(`code_of_readable`). A path that no file can have is no log file, and then the run is over before
its first key (`start_of_impossible`).
-/

namespace Stepboard

variable {σ : Type}

/-- The log files of the simulator by the settings. -/
def Settings.logAt (settings : Settings) : LogId → Path
  | .output => settings.outputLog
  | .messages => settings.messageLog

theorem Host.LogsAt.readable {host : Host σ} {paths : LogId → Path} (hat : host.LogsAt paths)
    (hpossible : ∀ id, (paths id).isImpossible = false) (id : LogId) (w : σ) :
    host.logFile id w ≠ .error .impossible := by
  intro h
  cases (hpossible id).symm.trans ((hat id w).1 h)

/-- However a session went, it holds no pane when it is finished. -/
theorem Run.released_finish (host : Host σ) (r : Run σ) :
    (r.finish host).session.board.released = true
      ∧ (r.finish host).session.board.heldPanes = [] := by
  unfold Run.finish
  rcases r.result with e | u
  · cases e <;> exact ⟨rfl, rfl⟩
  · exact ⟨rfl, rfl⟩

namespace Session

variable {host : Host σ}

/-- A run on some keys comes to take `key` in the session `x`, with `rest` to come. -/
def Takes (host : Host σ) (s : Session σ) (keys : List String) (x : Session σ) (key : String)
    (rest : List String) : Prop :=
  ∃ before, keys = before ++ key :: rest ∧ s.awaiting host before = some x

section Runs

/-- A loop takes all of its keys, or comes to one that it does not go on after. -/
theorem loop_cases (host : Host σ) : ∀ (keys : List String) (s : Session σ),
    ((s.loop host keys).result = .ok () ∧ (s.loop host keys).keysLeft = []
        ∧ s.waits host keys = some (s.loop host keys).session)
      ∨ ∃ before key rest x, keys = before ++ key :: rest ∧ s.waits host before = some x
        ∧ (x.handleKey host key).result ≠ .ok true
  | [], s => .inl ⟨rfl, rfl, rfl⟩
  | key :: keys, s => by
    rcases hk : (s.compose.1.handleKey host key).result with e | (_ | _)
    · exact .inr ⟨[], key, keys, s.compose.1, rfl, rfl, by simp [hk]⟩
    · exact .inr ⟨[], key, keys, s.compose.1, rfl, rfl, by simp [hk]⟩
    · have hloop : s.loop host (key :: keys) =
          { (s.compose.1.handleKey host key).session.loop host keys with
            frames := s.compose.2
              :: ((s.compose.1.handleKey host key).session.loop host keys).frames } := by
        simp only [loop, hk]
      rw [hloop]
      rcases loop_cases host keys (s.compose.1.handleKey host key).session with
        ⟨hok, hleft, hwaits⟩ | ⟨before, k, rest, x, rfl, hwaits, hstop⟩
      · refine .inl ⟨hok, hleft, ?_⟩
        simp only [waits, hk, hwaits]
      · refine .inr ⟨key :: before, k, rest, x, rfl, ?_, hstop⟩
        simp only [waits, hk, hwaits]

theorem run_cases {s : Session σ} {b : Bool} (hs : (s.start host).result = .ok b)
    (keys : List String) :
    (∃ x frames, s.awaiting host keys = some x
        ∧ s.run host keys = ⟨.ok exitOk, x.release, frames, []⟩)
      ∨ ∃ x key rest, s.Takes host keys x key rest ∧ (x.handleKey host key).result ≠ .ok true := by
  have hawaiting : ∀ keys, s.awaiting host keys = (s.start host).session.waits host keys := by
    intro keys
    unfold awaiting
    simp only [hs]
  rcases loop_cases host keys (s.start host).session with
    ⟨hok, hleft, hwaits⟩ | ⟨before, key, rest, x, hkeys, hwaits, hstop⟩
  · refine .inl ⟨_, ((s.start host).session.loop host keys).frames,
      (hawaiting keys).trans hwaits, ?_⟩
    unfold run play
    simp only [hs, Run.finish, hok, hleft]
  · exact .inr ⟨x, key, rest, ⟨before, hkeys, (hawaiting before).trans hwaits⟩, hstop⟩

theorem run_of_takes {s x : Session σ} {keys rest : List String} {key : String}
    (h : s.Takes host keys x key rest) :
    ∃ frames, s.run host keys
      = Run.finish host { resume host (x.handleKey host key) rest with frames } := by
  obtain ⟨before, rfl, hx⟩ := h
  exact run_of_awaiting key rest hx

/-- What holds of a session as a key is waited for. -/
theorem waits_induction {P : Session σ → Prop} (hdraw : ∀ s, P s → P s.compose.1)
    (hkey : ∀ s key, P s → (s.handleKey host key).result = .ok true →
      P (s.handleKey host key).session) :
    ∀ {keys : List String} {s x : Session σ}, P s → s.waits host keys = some x → P x
  | [], s, x, h, hx => by
    cases hx
    exact hdraw s h
  | key :: keys, s, x, h, hx => by
    rcases hk : (s.compose.1.handleKey host key).result with e | (_ | _) <;>
      simp only [waits, hk, reduceCtorEq] at hx
    exact waits_induction hdraw hkey (hkey _ key (hdraw s h) hk) hx

end Runs

section Endings

variable {s x : Session σ} {keys rest : List String} {key : String}
  (h : s.Takes host keys x key rest)

include h

theorem run_of_over (hover : (x.handleKey host key).result = .ok false) :
    ∃ frames, s.run host keys
      = ⟨.ok exitOk, (x.handleKey host key).session.release, frames, rest⟩ := by
  obtain ⟨frames, hrun⟩ := run_of_takes h
  refine ⟨frames, hrun.trans ?_⟩
  simp only [resume, hover, Run.finish]

/-- The keys after one that the session does not go on after are left. -/
theorem keysLeft_run (hstop : (x.handleKey host key).result ≠ .ok true) :
    (s.run host keys).keysLeft = rest := by
  obtain ⟨frames, hrun⟩ := run_of_takes h
  rw [hrun]
  rcases hr : (x.handleKey host key).result with e | (_ | _)
  · simp only [resume, hr, Run.finish]
    cases e <;> rfl
  · simp only [resume, hr, Run.finish]
  · exact absurd hr hstop

theorem run_of_unresolved {address : Int} {symbols : String} (hk : x.Steps key)
    (hu : host.simulator.Unresolved x.world address symbols) :
    (s.run host keys).code = .ok exitFatal
      ∧ (s.run host keys).session.board.exitMessage = (Failure.undefined address symbols).message
      ∧ (s.run host keys).session.calls = x.calls ∧ (s.run host keys).keysLeft = rest := by
  obtain ⟨frames, hrun⟩ := run_of_takes h
  obtain ⟨hresult, hcalls⟩ := handleKey_of_unresolved hk hu
  rw [hrun]
  simp only [resume, hresult, Run.finish]
  exact ⟨trivial, rfl, hcalls, trivial⟩

end Endings

/-- As long as a session waits for keys, it has its options and no last words of its own. -/
theorem awaiting_keeps {s x : Session σ} {keys : List String}
    (h : s.awaiting host keys = some x) :
    x.board.options = s.board.options ∧ x.board.exitMessage = s.board.exitMessage := by
  obtain ⟨hoptions, hwords, -⟩ := start_keeps host s
  unfold awaiting at h
  rcases hs : (s.start host).result with e | b <;> simp only [hs, reduceCtorEq] at h
  refine waits_induction (P := fun y => y.board.options = s.board.options
    ∧ y.board.exitMessage = s.board.exitMessage) (fun y hy => ?_) (fun y key hy hgo => ?_)
    ⟨hoptions, hwords⟩ h
  · have hidle := idle_compose host y
    exact ⟨hidle.options.trans hy.1, hidle.exitMessage.trans hy.2⟩
  · obtain ⟨hoptions, hwords⟩ := handleKey_keeps host y key
    refine ⟨hoptions.trans hy.1, (hwords fun hh => ?_).trans hy.2⟩
    rw [handleKey_of_halts hh.1 hh.2] at hgo
    cases hgo

/-- Where no file can have a log file's path, the logs cannot be shown. -/
theorem refreshLogs_of_impossible {paths : LogId → Path} (hat : host.LogsAt paths) {id : LogId}
    (h : (paths id).isImpossible = true) (s : Session σ) :
    ∃ id, (paths id).isImpossible = true
      ∧ (s.refreshLogs host).result = .error (.file ⟨.impossible, host.logPath id⟩) := by
  have hlog : ∀ {id : LogId}, (paths id).isImpossible = true → ∀ s : Session σ,
      (s.refreshLog host id).result = .error (.file ⟨.impossible, host.logPath id⟩) := by
    intro id h s
    unfold refreshLog
    rw [(hat id s.world).2 h]
    rfl
  by_cases hout : (paths .output).isImpossible = true
  · refine ⟨.output, hout, ?_⟩
    rcases refreshLogs_cases host s with ⟨hok, -⟩ | ⟨e, -, hr⟩
    · rw [hlog hout s] at hok
      cases hok
    · rw [hr]
      exact hlog hout s
  · have hread : host.logFile .output s.world ≠ .error .impossible :=
      fun hw => hout ((hat .output s.world).1 hw)
    have hmessages : (paths .messages).isImpossible = true := by
      cases id with
      | output => exact absurd h hout
      | messages => exact h
    refine ⟨.messages, hmessages, ?_⟩
    rcases refreshLogs_cases host s with ⟨-, hr⟩ | ⟨e, he, -⟩
    · rw [hr]
      exact hlog hmessages _
    · rw [refreshLog_of_readable host hread] at he
      cases he

section Settled

variable {settings : Settings} (hf : host.simulator.OnlyFaults) {s : Session σ}
  (hoptions : s.board.options = settings.viewOptions)

include hf hoptions

/-- A log file that cannot be stops a run before its first key, unless bounds in the wrong order
did. -/
theorem start_of_impossible (hat : host.LogsAt settings.logAt) (hstart : ¬ s.StartInverts host)
    {id : LogId} (h : (settings.logAt id).isImpossible = true) :
    ∃ id, (settings.logAt id).isImpossible = true
      ∧ (s.start host).result = .error (.file ⟨.impossible, host.logPath id⟩) := by
  obtain ⟨r, hr⟩ := start_shows hf hoptions hstart
  obtain ⟨id', h', hlogs⟩ := refreshLogs_of_impossible hat h r
  refine ⟨id', h', ?_⟩
  rw [hr]
  unfold goingOn
  rw [hlogs]
  rfl

section Readable

variable (hread : ∀ id w, host.logFile id w ≠ .error .impossible) (hstart : ¬ s.StartInverts host)

include hread hstart

theorem start_of_readable : (s.start host).result = .ok true := by
  obtain ⟨r, hr⟩ := start_shows hf hoptions hstart
  rw [hr]
  unfold goingOn
  rw [refreshLogs_of_readable host hread]
  rfl

/-- A run whose log files can be asked about and that meets no bounds in the wrong order ends well,
and without last words of its own unless the program cannot go on or symbols are undefined as a key
steps. -/
theorem code_of_readable {keys : List String}
    (hsteps : ∀ x key rest, s.Takes host keys x key rest → x.Steps key → ¬ x.StepInverts host) :
    ((s.run host keys).code = .ok exitOk
        ∧ ((s.run host keys).session.board.exitMessage = s.board.exitMessage
          ∨ ∃ x key rest, s.Takes host keys x key rest ∧ x.Steps key
            ∧ host.simulator.Halts x.world))
      ∨ ∃ x key rest address symbols, s.Takes host keys x key rest ∧ x.Steps key
        ∧ host.simulator.Unresolved x.world address symbols := by
  rcases run_cases (start_of_readable hf hoptions hread hstart) keys with
    ⟨x, frames, hx, hrun⟩ | ⟨x, key, rest, htakes, hstop⟩
  · rw [hrun]
    exact .inl ⟨rfl, .inl (awaiting_keeps hx).2⟩
  · obtain ⟨before, hkeys, hx⟩ := htakes
    obtain ⟨hkept, hwords⟩ := awaiting_keeps hx
    have htakes : s.Takes host keys x key rest := ⟨before, hkeys, hx⟩
    rcases handleKey_cases hf (hkept.trans hoptions) hread (hsteps x key rest htakes) with
      h | ⟨hover, -⟩ | ⟨address, symbols, hk, hu⟩
    · exact absurd h hstop
    · obtain ⟨frames, hrun⟩ := run_of_over htakes hover
      rw [hrun]
      refine .inl ⟨rfl, ?_⟩
      -- The key that ends the session leaves last words only by a halt.
      by_cases hh : x.Steps key ∧ host.simulator.Halts x.world
      · exact .inr ⟨x, key, rest, htakes, hh⟩
      · exact .inl (((handleKey_keeps host x key).2 hh).trans hwords)
    · exact .inr ⟨x, key, rest, address, symbols, htakes, hk, hu⟩

end Readable

end Settled

section Ordered

variable {settings : Settings} (hf : host.simulator.OnlyFaults) (ho : host.simulator.Ordered)
  (hat : host.LogsAt settings.logAt) {s : Session σ}
  (hoptions : s.board.options = settings.viewOptions)

include hf ho hat hoptions

theorem run_of_impossible {id : LogId} (h : (settings.logAt id).isImpossible = true)
    (keys : List String) :
    (∃ id, (settings.logAt id).isImpossible = true
        ∧ (s.run host keys).code = .error (.file ⟨.impossible, host.logPath id⟩))
      ∧ (s.run host keys).keysLeft = keys ∧ (s.run host keys).session.calls = s.calls
      ∧ (s.run host keys).session.board.exitMessage = s.board.exitMessage := by
  obtain ⟨-, hwords, hcalls⟩ := start_keeps host s
  obtain ⟨id', h', hresult⟩ := start_of_impossible hf hoptions hat (not_startInverts s ho) h
  unfold run play
  simp only [hresult, Run.finish]
  exact ⟨⟨id', h', rfl⟩, trivial, hcalls, hwords⟩

theorem code_run (hpossible : ∀ id, (settings.logAt id).isImpossible = false) (keys : List String) :
    ((s.run host keys).code = .ok exitOk
        ∧ ((s.run host keys).session.board.exitMessage = s.board.exitMessage
          ∨ ∃ x key rest, s.Takes host keys x key rest ∧ x.Steps key
            ∧ host.simulator.Halts x.world))
      ∨ ∃ x key rest address symbols, s.Takes host keys x key rest ∧ x.Steps key
        ∧ host.simulator.Unresolved x.world address symbols :=
  code_of_readable hf hoptions (hat.readable hpossible) (not_startInverts s ho)
    fun x _ _ _ _ => not_stepInverts x ho

end Ordered

/-- However a run ends, the panes are given up. With a simulator that fails by faults alone, its
data segments in order, and log files at the paths of the settings: if no file can have such a path,
the run is stopped by that before it takes a key. Otherwise it ends with an exit code, which tells
of a failure exactly if a step key was taken while no fault box was up and symbols were undefined;
these are its last words then, and no step was made. A quit key ends it well, no key after the last
one is taken, and without undefined symbols it has last words only from a program that cannot go
on. -/
theorem run_ends (host : Host σ) (settings : Settings) (program : String) (width height : Int)
    (world : σ) (keys : List String) :
    let begun := fresh program width height settings.viewOptions world
    let finish := begun.run host keys
    (finish.session.board.released = true ∧ finish.session.board.heldPanes = [])
      ∧ (host.simulator.OnlyFaults → host.simulator.Ordered → host.LogsAt settings.logAt →
        ((∃ id, (settings.logAt id).isImpossible = true) →
          (∃ id, (settings.logAt id).isImpossible = true
              ∧ finish.code = .error (.file ⟨.impossible, host.logPath id⟩))
            ∧ finish.keysLeft = keys ∧ finish.session.calls = []
            ∧ finish.session.board.exitMessage = "")
        ∧ ((∀ id, (settings.logAt id).isImpossible = false) →
          (finish.code = .ok exitOk ∨ finish.code = .ok exitFatal)
            ∧ (finish.code = .ok exitFatal ↔
              ∃ x key rest address symbols, begun.Takes host keys x key rest ∧ x.Steps key
                ∧ host.simulator.Unresolved x.world address symbols)
            ∧ (∀ x key rest, begun.Takes host keys x key rest →
              (∀ address symbols, x.Steps key →
                  host.simulator.Unresolved x.world address symbols →
                  finish.session.board.exitMessage
                      = (Failure.undefined address symbols).message
                    ∧ finish.session.calls = x.calls ∧ finish.keysLeft = rest)
                ∧ (Action.ofKey key = .quit → finish.code = .ok exitOk ∧ finish.keysLeft = rest)
                ∧ ((x.handleKey host key).result ≠ .ok true → finish.keysLeft = rest))
            ∧ (finish.session.board.exitMessage ≠ "" →
              ∃ x key rest, begun.Takes host keys x key rest ∧ x.Steps key
                ∧ (host.simulator.Halts x.world
                  ∨ ∃ address symbols, host.simulator.Unresolved x.world address symbols)))) := by
  intro begun finish
  have hoptions : begun.board.options = settings.viewOptions := rfl
  refine ⟨Run.released_finish host _, fun hf ho hat => ⟨?impossible, ?asked⟩⟩
  case impossible =>
    rintro ⟨id, hid⟩
    exact run_of_impossible hf ho hat hoptions hid keys
  case asked =>
    intro hpossible
    have hcode := code_run hf ho hat hoptions hpossible keys
    refine ⟨?_, ⟨fun hfatal => ?_, ?_⟩, fun x key rest htakes => ⟨?_, ?_, ?_⟩, fun hwords => ?_⟩
    · rcases hcode with ⟨hok, -⟩ | ⟨x, key, rest, address, symbols, htakes, hk, hu⟩
      · exact .inl hok
      · exact .inr (run_of_unresolved htakes hk hu).1
    · rcases hcode with ⟨hok, -⟩ | hu
      · rw [show finish.code = _ from hok] at hfatal
        cases hfatal
      · exact hu
    · rintro ⟨x, key, rest, address, symbols, htakes, hk, hu⟩
      exact (run_of_unresolved htakes hk hu).1
    · intro address symbols hk hu
      exact (run_of_unresolved htakes hk hu).2
    · intro hquit
      obtain ⟨frames, hrun⟩ := run_of_over htakes (handleKey_of_quit x hquit)
      rw [show finish = _ from hrun]
      exact ⟨rfl, rfl⟩
    · exact keysLeft_run htakes
    · rcases hcode with ⟨-, hnone | ⟨x, key, rest, htakes, hk, hh⟩⟩ |
        ⟨x, key, rest, address, symbols, htakes, hk, hu⟩
      · exact absurd hnone hwords
      · exact ⟨x, key, rest, htakes, hk, .inl hh⟩
      · exact ⟨x, key, rest, htakes, hk, .inr ⟨address, symbols, hu⟩⟩

end Session

namespace Scripted

/-- The surroundings of a process in an empty directory. -/
def bare : Surroundings where
  files := { workingPlace := [] }
  nesting := 64

/-- The settings without a settings file. -/
def plainSettings : Settings where
  backend := .null
  outputLog := Path.ofString "/.spimdash/output.log"
  messageLog := Path.ofString "/.spimdash/messages.log"
  hexRegisters := true
  dataBase := .hexadecimal
  stackBase := .hexadecimal
  logFile := .nowhere .null
  logLevel := .info
  stateDirectory := Path.ofString "/.spimdash"

/-- The settings with the name of one log file out of a settings file. -/
def namedSettings (messageLog : String) : Settings :=
  { plainSettings with messageLog := Path.ofString ("/.spimdash/" ++ messageLog) }

/-- A machine that counts its steps. After the first its instruction cannot be told, and a symbol is
undefined. -/
def counter : Simulator Nat where
  currentPc n := .ok (0x400000 + 4 * n) n
  step _ n := .ok true (n + 1)
  formatRegisters _ n := .ok "" n
  disassemble _ n := .ok [] n
  instructionAt _ n := if n = 1 then .error (.fault "no instruction") n else .ok "nop" n
  readWord _ n := .ok 0 n
  readByte _ n := .ok 0 n
  undefinedSymbols n := .ok (if n = 1 then "f" else "") n
  dataSegment n := .ok (0x10010000, 0x10010000) n
  stackSegment n := .ok (0x80000000, 0x80000000) n
  kernelDataSegment n := .ok (0x90000000, 0x90000000) n

def counterHost (settings : Settings) : Host Nat where
  simulator := counter
  logPath id := (settings.logAt id).text
  logFile id _ := bare.files.readBytes (settings.logAt id)

theorem onlyFaults_counter : counter.OnlyFaults := by
  refine ⟨?_, ?_, ?_, ?_, ?_, ?_, ?_, ?_, ?_, ?_, ?_⟩
  case refine_5 =>
    intro address n e n' h
    unfold counter at h
    dsimp only at h
    split_ifs at h
    cases h
    exact ⟨_, rfl⟩
  all_goals
    intros
    intro n e n' h
    cases h

theorem ordered_counter : counter.Ordered := by
  constructor <;> (intro n low high n' h; cases h; decide)

theorem logsAt_counterHost (settings : Settings) :
    (counterHost settings).LogsAt settings.logAt :=
  fun id _ => bare.files.readBytes_eq_impossible_iff (settings.logAt id)

def counterRun (settings : Settings) : Finish Nat :=
  (Session.fresh "p.s" 60 22 settings.viewOptions 0).run (counterHost settings) ["s", "x", "s", "q"]

/-- With default settings the machine steps once and is then stopped by its undefined symbol, the
fault box having taken a key in between. With a log file that cannot be, it is stopped before the
first key. -/
theorem run_ends_of_counter :
    Settings.ofMembers bare [] [] = .ok plainSettings
      ∧ ((counterRun plainSettings).code = .ok exitFatal
        ∧ (counterRun plainSettings).keysLeft = ["q"]
        ∧ (counterRun plainSettings).session.board.exitMessage
          = "undefined symbols before executing 0x00400004:\nf"
        ∧ (counterRun plainSettings).session.calls = [singleStep 0x400000]
        ∧ (counterRun plainSettings).session.board.heldPanes = [])
      ∧ (counterRun (namedSettings "a\x00b")).keysLeft = ["s", "x", "s", "q"]
      ∧ (counterRun (namedSettings "a\x00b")).session.board.heldPanes = [] := by
  unfold counterRun
  obtain ⟨⟨-, hpanes⟩, hends⟩ := Session.run_ends (counterHost plainSettings) plainSettings "p.s"
    60 22 0 ["s", "x", "s", "q"]
  obtain ⟨⟨-, hpanes'⟩, hends'⟩ := Session.run_ends (counterHost (namedSettings "a\x00b"))
    (namedSettings "a\x00b") "p.s" 60 22 0 ["s", "x", "s", "q"]
  obtain ⟨-, hasked⟩ := hends onlyFaults_counter ordered_counter (logsAt_counterHost _)
  obtain ⟨himpossible, -⟩ := hends' onlyFaults_counter ordered_counter (logsAt_counterHost _)
  obtain ⟨-, hfatal, htaken, -⟩ := hasked (by intro id; cases id <;> decide)
  obtain ⟨-, hleft', -⟩ := himpossible ⟨.messages, by decide⟩
  obtain ⟨x, hx, hk, hworld, hcalls⟩ : ∃ x,
      (Session.fresh "p.s" 60 22 plainSettings.viewOptions 0).awaiting (counterHost plainSettings)
        ["s", "x"] = some x ∧ x.Steps "s" ∧ x.world = 1 ∧ x.calls = [singleStep 0x400000] := by
    refine ⟨((Session.fresh "p.s" 60 22 plainSettings.viewOptions 0).awaiting
      (counterHost plainSettings) ["s", "x"]).get (by decide +kernel), (Option.some_get _).symm,
      ?_, ?_, ?_⟩ <;> decide +kernel
  have hu : (counterHost plainSettings).simulator.Unresolved x.world 0x400004 "f" := by
    rw [hworld]
    exact ⟨1, "f", 1, rfl, by decide, rfl, by decide +kernel, by decide⟩
  have htakes : (Session.fresh "p.s" 60 22 plainSettings.viewOptions 0).Takes
      (counterHost plainSettings) ["s", "x", "s", "q"] x "s" ["q"] := ⟨["s", "x"], rfl, hx⟩
  obtain ⟨hwords, hcalls', hleft⟩ := (htaken x "s" ["q"] htakes).1 0x400004 "f" hk hu
  have hcode := hfatal.2 ⟨x, "s", ["q"], 0x400004, "f", htakes, hk, hu⟩
  have hmessage : (Failure.undefined 0x400004 "f").message
      = "undefined symbols before executing 0x00400004:\nf" := by decide +kernel
  rw [hmessage] at hwords
  rw [hcalls] at hcalls'
  exact ⟨by rfl, ⟨hcode, hleft, hwords, hcalls', hpanes⟩, hleft', hpanes'⟩

/-- A settings file may name a log file that cannot be, and then the run of a machine that fails by
faults alone has no exit code. -/
theorem run_fails_of_nul :
    Settings.ofMembers bare [] [("message_log", .str "a\x00b")] = .ok (namedSettings "a\x00b")
      ∧ counter.OnlyFaults ∧ counter.Ordered
      ∧ (counterRun (namedSettings "a\x00b")).code
        = .error (.file ⟨.impossible, "/.spimdash/a\x00b"⟩) :=
  ⟨by rfl, onlyFaults_counter, ordered_counter, by decide +kernel⟩

end Scripted

end Stepboard
