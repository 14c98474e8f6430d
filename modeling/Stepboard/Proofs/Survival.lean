import Stepboard.Proofs.Endings
/-!
# What a simulator can do to a session

Whatever a simulator answers, nothing escapes from a session but undefined symbols, as long as its
data segments have their bounds in order when they are shown and its log files can be asked about.
Both conditions are needed: bounds in the wrong order escape from the turn that meets them
(`handleKey_contained_iff`), a log file that cannot be from the first turn, and either way there is
no exit code (`readings_contained_iff`).
-/

namespace Stepboard

variable {σ : Type}

/-- A turn from which nothing escapes but undefined symbols. -/
def Turn.Contained {α : Type} (t : Turn σ α) : Prop :=
  ∀ e, t.result = .error e → ∃ address symbols, e = .undefined address symbols

namespace Turn

variable {α : Type} {t : Turn σ α}

theorem contained_of_ok {a : α} (h : t.result = .ok a) : t.Contained := by
  intro e he
  cases h.symm.trans he

theorem not_contained_of_inverted {e : Memory.InvertedSegment}
    (h : t.result = .error (.inverted e)) : ¬ t.Contained := by
  intro hc
  obtain ⟨address, symbols, he⟩ := hc _ h
  cases he

theorem not_contained_of_file {e : FileFailure} (h : t.result = .error (.file e)) :
    ¬ t.Contained := by
  intro hc
  obtain ⟨address, symbols, he⟩ := hc _ h
  cases he

end Turn

namespace Session

variable {host : Host σ}

theorem run_of_start_error {s : Session σ} {e : Failure} (h : (s.start host).result = .error e)
    (he : ∀ address symbols, e ≠ .undefined address symbols) (keys : List String) :
    (s.run host keys).code = .error e := by
  unfold run play
  cases e with
  | undefined address symbols => exact absurd rfl (he address symbols)
  | _ => simp only [h, Run.finish]

theorem run_of_key_error {s x : Session σ} {keys rest : List String} {key : String} {e : Failure}
    (h : s.Takes host keys x key rest) (hkey : (x.handleKey host key).result = .error e)
    (he : ∀ address symbols, e ≠ .undefined address symbols) :
    (s.run host keys).code = .error e := by
  obtain ⟨frames, hrun⟩ := run_of_takes h
  rw [hrun]
  cases e with
  | undefined address symbols => exact absurd rfl (he address symbols)
  | _ => simp only [resume, hkey, Run.finish]

section Settings

variable {settings : Settings} (hf : host.simulator.OnlyFaults) (hat : host.LogsAt settings.logAt)
  {s : Session σ} (hoptions : s.board.options = settings.viewOptions)

include hf hat hoptions

theorem start_contained_iff : (s.start host).Contained
    ↔ (∀ id, (settings.logAt id).isImpossible = false) ∧ ¬ s.StartInverts host := by
  by_cases hstart : s.StartInverts host
  · obtain ⟨e, he⟩ := start_of_inverted hf hoptions hstart
    exact iff_of_false (Turn.not_contained_of_inverted he) fun h => h.2 hstart
  by_cases hpossible : ∀ id, (settings.logAt id).isImpossible = false
  · have hok := start_of_readable hf hoptions (hat.readable hpossible) hstart
    exact iff_of_true (Turn.contained_of_ok hok) ⟨hpossible, hstart⟩
  · obtain ⟨id, hid⟩ := not_forall.mp hpossible
    obtain ⟨id', -, he⟩ := start_of_impossible hf hoptions hat hstart (by simpa using hid)
    exact iff_of_false (Turn.not_contained_of_file he) fun h => hpossible h.1

/-- A key lets something else than undefined symbols escape just if it steps and then meets bounds
in the wrong order. -/
theorem handleKey_contained_iff (hpossible : ∀ id, (settings.logAt id).isImpossible = false)
    (key : String) :
    (s.handleKey host key).Contained ↔ ¬ (s.Steps key ∧ s.StepInverts host) := by
  by_cases h : s.Steps key ∧ s.StepInverts host
  · obtain ⟨e, he⟩ := handleKey_of_inverted hf hoptions h.1 h.2
    exact iff_of_false (Turn.not_contained_of_inverted he) fun hn => hn h
  · refine iff_of_true ?_ h
    rcases handleKey_cases hf hoptions (hat.readable hpossible) fun hk hi => h ⟨hk, hi⟩ with
      hok | ⟨hok, -⟩ | ⟨address, symbols, hk, hu⟩
    · exact Turn.contained_of_ok hok
    · exact Turn.contained_of_ok hok
    · intro e he
      rw [(handleKey_of_unresolved hk hu).1] at he
      cases he
      exact ⟨address, symbols, rfl⟩

theorem run_has_code_iff (keys : List String) : (∃ code, (s.run host keys).code = .ok code)
    ↔ (∀ id, (settings.logAt id).isImpossible = false) ∧ ¬ s.StartInverts host
      ∧ ∀ x key rest, s.Takes host keys x key rest → x.Steps key → ¬ x.StepInverts host := by
  constructor
  · rintro ⟨code, hcode⟩
    have hstart : ¬ s.StartInverts host := by
      intro h
      obtain ⟨e, he⟩ := start_of_inverted hf hoptions h
      cases hcode.symm.trans (run_of_start_error he nofun keys)
    refine ⟨fun id => ?_, hstart, fun x key rest htakes hk h => ?_⟩
    · rw [← Bool.not_eq_true]
      intro himpossible
      obtain ⟨id', -, he⟩ := start_of_impossible hf hoptions hat hstart himpossible
      cases hcode.symm.trans (run_of_start_error he nofun keys)
    · have hkept : x.board.options = settings.viewOptions := by
        obtain ⟨before, -, hx⟩ := htakes
        exact (awaiting_keeps hx).1.trans hoptions
      obtain ⟨e, he⟩ := handleKey_of_inverted hf hkept hk h
      cases hcode.symm.trans (run_of_key_error htakes he nofun)
  · rintro ⟨hpossible, hstart, hsteps⟩
    rcases code_of_readable hf hoptions (hat.readable hpossible) hstart hsteps with
      ⟨hok, -⟩ | ⟨x, key, rest, address, symbols, htakes, hk, hu⟩
    · exact ⟨_, hok⟩
    · exact ⟨_, (run_of_unresolved htakes hk hu).1⟩

end Settings

/-- With a simulator that fails by faults alone and log files at the paths of the settings, a run
has an exit code just if files can have such paths and the data segments come with their bounds in
order whenever they are shown, as the session begins and after each step. These are also the turns
from which something else than undefined symbols escapes. A simulator whose data segments always
come in order stops no run. -/
theorem readings_contained_iff (host : Host σ) (settings : Settings)
    (hf : host.simulator.OnlyFaults) (hat : host.LogsAt settings.logAt) (program : String)
    (width height : Int) (world : σ) (keys : List String) :
    let begun := fresh program width height settings.viewOptions world
    let named := ∀ id, (settings.logAt id).isImpossible = false
    ((begun.start host).Contained ↔ named ∧ ¬ begun.StartInverts host)
      ∧ (named → ∀ (s : Session σ) (key : String), s.board.options = settings.viewOptions →
        ((s.handleKey host key).Contained ↔ ¬ (s.Steps key ∧ s.StepInverts host)))
      ∧ ((∃ code, (begun.run host keys).code = .ok code)
        ↔ named ∧ ¬ begun.StartInverts host
          ∧ ∀ x key rest, begun.Takes host keys x key rest → x.Steps key → ¬ x.StepInverts host)
      ∧ (host.simulator.Ordered → named → ∃ code, (begun.run host keys).code = .ok code) := by
  intro begun named
  have hoptions : begun.board.options = settings.viewOptions := rfl
  have hrun := run_has_code_iff hf hat hoptions keys
  refine ⟨start_contained_iff hf hat hoptions, fun hpossible s key hs =>
    handleKey_contained_iff hf hat hs hpossible key, hrun, fun ho hpossible =>
      hrun.mpr ⟨hpossible, ?_, ?_⟩⟩
  · exact not_startInverts begun ho
  · exact fun x _ _ _ _ => not_stepInverts x ho

end Session

namespace Scripted

/-- The session of the machine that counts its steps is contained, and its run has an exit code. -/
theorem readings_contained_of_counter :
    counter.OnlyFaults ∧ (counterHost plainSettings).LogsAt plainSettings.logAt
      ∧ ((Session.fresh "p.s" 60 22 plainSettings.viewOptions 0).start
          (counterHost plainSettings)).Contained
      ∧ ∃ code, (counterRun plainSettings).code = .ok code := by
  obtain ⟨hstart, -, -, hordered⟩ := Session.readings_contained_iff (counterHost plainSettings)
    plainSettings onlyFaults_counter (logsAt_counterHost _) "p.s" 60 22 0 ["s", "x", "s", "q"]
  have hnamed : ∀ id, (plainSettings.logAt id).isImpossible = false := by
    intro id
    cases id <;> decide
  exact ⟨onlyFaults_counter, logsAt_counterHost _,
    hstart.mpr ⟨hnamed, Session.not_startInverts _ ordered_counter⟩,
    hordered ordered_counter hnamed⟩

/-- A machine that counts its steps, the high end of its data segment falling below the low end
with the first. -/
def falling : Simulator Nat :=
  { counter with
    instructionAt := fun _ n => .ok "nop" n
    dataSegment := fun n => .ok (0x10010000, 0x10010000 - 16 * n) n }

def fallingHost : Host Nat :=
  { counterHost plainSettings with simulator := falling }

theorem onlyFaults_falling : falling.OnlyFaults :=
  { onlyFaults_counter with
    instructionAt := fun _ _ _ _ h => nomatch h
    dataSegment := fun _ _ _ h => nomatch h }

/-- The bounds of a machine that never fails may escape from a key, and from a session as it
begins. -/
theorem falling_segment_escapes :
    let begun := Session.fresh "p.s" 60 22 plainSettings.viewOptions
    falling.OnlyFaults ∧ fallingHost.LogsAt plainSettings.logAt
      ∧ ((begun 0).start fallingHost).result = .ok true
      ∧ (((begun 0).start fallingHost).session.handleKey fallingHost "s").result
        = .error (.inverted ⟨"User data segment", 0x10010000, 0x1000fff0⟩)
      ∧ ((begun 0).run fallingHost ["s", "q"]).code
        = .error (.inverted ⟨"User data segment", 0x10010000, 0x1000fff0⟩)
      ∧ ((begun 1).start fallingHost).result
        = .error (.inverted ⟨"User data segment", 0x10010000, 0x1000fff0⟩) :=
  ⟨onlyFaults_falling, logsAt_counterHost _, by decide +kernel, by decide +kernel,
    by decide +kernel, by decide +kernel⟩

end Scripted

end Stepboard
