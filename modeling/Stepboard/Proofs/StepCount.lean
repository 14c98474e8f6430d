import Stepboard.Proofs.Recording
import Stepboard.Simulator.Scripted
/-!
# Counting the steps

A key asks the simulator for a step exactly if it is a step key, no fault box is up, and there is an
instruction to step with no symbol undefined; it then asks for that one step. What the board counts
is the steps that the simulator said were taken and can be gone on from.
-/

namespace Stepboard

variable {σ : Type}

namespace Simulator

variable {sim : Simulator σ}

/-- With an instruction to step and no symbol undefined, a guarded step asks for just that step. -/
theorem asks_of_ready {w w' : σ} {address : Int} (h : sim.Ready w address w') :
    sim.asks w = [⟨singleStep address, sim.answerTo (singleStep address) w'⟩] := by
  obtain ⟨w₁, text, hpc, hne, hsym, hblank⟩ := h
  have hready : sim.recording.Ready ⟨w, []⟩ address ⟨w', []⟩ :=
    ⟨⟨w₁, []⟩, text, by simp [recording, Query.recorded, recordedResult, hpc], hne,
      by simp [recording, Query.recorded, recordedResult, hsym], hblank⟩
  unfold asks
  rw [guardedStep_of_ready hready, stepAt_recording]
  rfl

theorem asks_of_not_ready {w : σ} (h : ¬ ∃ address w', sim.Ready w address w') :
    sim.asks w = [] := by
  unfold asks guardedStep
  simp only [show sim.recording.currentPc = Query.recorded sim.currentPc from rfl,
    show sim.recording.undefinedSymbols = Query.recorded sim.undefinedSymbols from rfl,
    Query.recorded, recordedResult]
  rcases hpc : sim.currentPc w with ⟨address, w₁⟩ | ⟨e, w₁⟩
  · by_cases hne : address = 0
    · simp [hne]
    · rcases hsym : sim.undefinedSymbols w₁ with ⟨text, w₂⟩ | ⟨e, w₂⟩
      · by_cases hblank : Text.strip text = ""
        · exact absurd ⟨address, w₂, w₁, text, hpc, hne, hsym, hblank⟩ h
        · simp [hne, hsym, hblank]
      · simp [hne, hsym]
  · rfl

theorem calls_guardedStep (w : σ) :
    (sim.guardedStep w).calls = (sim.asks w).map (·.call) := by
  by_cases h : ∃ address w', sim.Ready w address w'
  · obtain ⟨address, w', hr⟩ := h
    rw [guardedStep_of_ready hr, asks_of_ready hr, calls_stepAt]
    rfl
  · rw [asks_of_not_ready h]
    rcases guardedStep_cases sim w with hr | ⟨outcome, w', hg, -⟩
    · exact absurd hr h
    · rw [hg]
      rfl

/-- How many steps are taken and can be gone on from. -/
def taken (asked : List AskedStep) : Nat :=
  asked.countP (·.answer == some true)

theorem taken_append (asked new : List AskedStep) :
    taken (asked ++ new) = taken asked + taken new :=
  List.countP_append

/-- What a guarded step asks for counts exactly if it comes out well. -/
theorem taken_asks (w : σ) :
    taken (sim.asks w) =
      match (sim.guardedStep w).outcome with
      | .ok o => if o.status = .ok then 1 else 0
      | .error _ => 0 := by
  by_cases h : ∃ address w', sim.Ready w address w'
  · obtain ⟨address, w', hr⟩ := h
    have hok := (stepAt_ok_iff address w').trans
      (sim.answerTo_eq_some_iff (singleStep address) w' true).symm
    rw [asks_of_ready hr, guardedStep_of_ready hr]
    split <;> rename_i ho
    · simp only [ho, Except.ok.injEq, exists_eq_left'] at hok
      simp [taken, hok]
    · simp only [ho, reduceCtorEq, false_and, exists_false, false_iff] at hok
      simp [taken, hok]
  · rw [asks_of_not_ready h]
    rcases guardedStep_cases sim w with hr | ⟨outcome, w', hg, hf⟩
    · exact absurd hr h
    · rw [hg]
      split <;> rename_i o ho
      · simp [hf o ho, taken]
      · rfl

end Simulator

namespace Session

section

variable (host : Host σ)

theorem steps_advance (s : Session σ) :
    (s.advance host).session.board.steps
      = s.board.steps + Simulator.taken (host.simulator.asks s.world) := by
  rw [Simulator.taken_asks]
  rcases advance_cases host s with ⟨o, ho, h⟩ | ⟨e, he, h⟩ <;> rw [h]
  · rw [steps_takeOutcome, board_reported, ho]
  · rw [board_reported, he]
    rfl

theorem calls_advance (s : Session σ) :
    (s.advance host).session.calls = s.calls ++ (host.simulator.asks s.world).map (·.call) := by
  rw [← Simulator.calls_guardedStep]
  rcases advance_cases host s with ⟨o, -, h⟩ | ⟨e, -, h⟩ <;> rw [h]
  · rw [calls_takeOutcome, calls_reported]
  · rw [calls_reported]

/-- Whatever becomes of the refresh, a step counts as it was answered. -/
theorem step_counts (s : Session σ) :
    (s.step host).session.board.steps
        = s.board.steps + Simulator.taken (host.simulator.asks s.world)
      ∧ (s.step host).session.calls
        = s.calls ++ (host.simulator.asks s.world).map (·.call) := by
  rw [← steps_advance, ← calls_advance]
  rcases step_cases host s with ⟨o, -, -, h⟩ | ⟨o, -, -, h⟩ | ⟨e, -, h⟩ <;> rw [h]
  · exact (refresh_keeps host (s.advance host).session).2.2.2
  · exact ⟨rfl, rfl⟩
  · exact ⟨rfl, rfl⟩

theorem handleKey_counts (s : Session σ) (key : String) :
    (s.handleKey host key).session.board.steps
        = s.board.steps + Simulator.taken (s.asks host key)
      ∧ (s.handleKey host key).session.calls
        = s.calls ++ (s.asks host key).map (·.call) := by
  unfold asks
  split_ifs with hk
  · have hi := idle_settle host (s.step host)
    rw [handleKey_of_steps host hk, hi.steps, hi.calls]
    exact step_counts host s
  · have hi := idle_handleKey host hk
    rw [hi.steps, hi.calls]
    exact ⟨rfl, by simp⟩

end

variable {host : Host σ}

theorem asks_of_steps {s : Session σ} {key : String} {address : Int} {w : σ} (h : s.Steps key)
    (hr : host.simulator.Ready s.world address w) :
    s.asks host key = [⟨singleStep address, host.simulator.answerTo (singleStep address) w⟩] :=
  (if_pos h).trans (Simulator.asks_of_ready hr)

theorem asks_eq_nil {s : Session σ} {key : String}
    (h : ¬ (s.Steps key ∧ ∃ address w, host.simulator.Ready s.world address w)) :
    s.asks host key = [] := by
  unfold asks
  split_ifs with hk
  · exact Simulator.asks_of_not_ready fun hr => h ⟨hk, hr⟩
  · rfl

/-- The steps that a session counts and the calls it keeps are those of a record. -/
structure Counted (s : Session σ) (asked : List AskedStep) : Prop where
  steps : s.board.steps = Simulator.taken asked
  calls : s.calls = asked.map (·.call)

theorem counted_idle {s s' : Session σ} {asked : List AskedStep} (hi : Idle host s s')
    (h : Counted s asked) : Counted s' asked :=
  ⟨hi.steps.trans h.steps, hi.calls.trans h.calls⟩

theorem counted_afterEvent (event : Event σ) {s : Session σ} {asked : List AskedStep}
    (h : Counted s asked) : Counted (s.afterEvent host event) (asked ++ s.asksOf host event) := by
  cases event with
  | key name =>
    obtain ⟨hs, hc⟩ := handleKey_counts host s name
    constructor
    · rw [asksOf, Simulator.taken_append, ← h.steps]
      exact hs
    · rw [asksOf, List.map_append, ← h.calls]
      exact hc
  | draw =>
    rw [asksOf, List.append_nil]
    exact counted_idle (idle_compose host s) h
  | outside change =>
    rw [asksOf, List.append_nil]
    exact ⟨h.steps, h.calls⟩

theorem load_counts (host : Host σ) (s : Session σ) :
    (s.load host).session.board.steps = s.board.steps
      ∧ (s.load host).session.calls = s.calls := by
  obtain ⟨-, -, hread⟩ := readListing_keeps host s
  rcases load_cases host s with ⟨e, -, h⟩ | ⟨-, h⟩ <;> rw [h]
  · exact hread
  · obtain ⟨-, -, -, hsteps, hcalls⟩ := refresh_keeps host (s.readListing host).session
    exact ⟨hsteps.trans hread.1, hcalls.trans hread.2⟩

theorem start_counts (host : Host σ) (s : Session σ) :
    (s.start host).session.board.steps = s.board.steps
      ∧ (s.start host).session.calls = s.calls := by
  have hi := idle_settle host (goingOn (load host { s with board := s.board.resetStreams }))
  obtain ⟨hsteps, hcalls⟩ := load_counts host { s with board := s.board.resetStreams }
  exact ⟨hi.steps.trans hsteps, hi.calls.trans hcalls⟩

/-- What the simulator has been asked in a session begun and taken through events. -/
def asksAfter (host : Host σ) (s : Session σ) (events : List (Event σ)) : List AskedStep :=
  ((s.recorded []).after host.recording (events.map Event.recorded)).world.asked

theorem asksAfter_append (s : Session σ) (events : List (Event σ)) (event : Event σ) :
    s.asksAfter host (events ++ [event])
      = s.asksAfter host events ++ (s.after host events).asksOf host event := by
  have h := after_recording host s [] events
  unfold asksAfter
  simp only [after, List.map_append, List.map_cons, List.map_nil, List.foldl_append,
    List.foldl_cons, List.foldl_nil] at h ⊢
  rw [h, afterEvent_recording]
  rfl

theorem counted_after (host : Host σ) {s : Session σ} (hs : s.board.steps = 0) (hc : s.calls = [])
    (events : List (Event σ)) : Counted (s.after host events) (s.asksAfter host events) := by
  induction events using List.reverseRecOn with
  | nil =>
    have hasks : s.asksAfter host [] = [] := by
      simp only [asksAfter, after, List.map_nil, List.foldl_nil, recorded_start]
      rfl
    obtain ⟨hs', hc'⟩ := start_counts host s
    rw [hasks]
    exact ⟨hs'.trans hs, hc'.trans hc⟩
  | append_singleton events event ih =>
    rw [asksAfter_append]
    simp only [after, List.foldl_append, List.foldl_cons, List.foldl_nil] at ih ⊢
    exact counted_afterEvent event ih

/-- In every session on a recording simulator, which is that on the simulator with a record beside
its world: the steps counted are those answered well, the calls kept are those made, and a key adds
to the record just the step of the current instruction if it is taken as a step, there is an
instruction to step and no symbol is undefined, and nothing otherwise; a key not taken as a step
changes the world by its notes alone. -/
theorem steps_count_answers (host : Host σ) (program : String) (width height : Int)
    (options : ViewOptions) (world : σ) (events : List (Event σ)) :
    let s₀ := fresh program width height options world
    let s := (fresh program width height options ⟨world, []⟩).after host.recording
      (events.map Event.recorded)
    s = (s₀.after host events).recorded s.world.asked
      ∧ s.board.steps = s.world.asked.countP (·.answer == some true)
      ∧ s.calls = s.world.asked.map (·.call)
      ∧ ∀ key,
        let s' := (s.handleKey host.recording key).session
        (∀ address w, s.Steps key → host.simulator.Ready s.world.world address w →
          s'.world.asked = s.world.asked ++
            [⟨⟨address, 1, false, true⟩, host.simulator.answerTo ⟨address, 1, false, true⟩ w⟩])
        ∧ (¬ (s.Steps key ∧ ∃ address w, host.simulator.Ready s.world.world address w) →
          s'.world.asked = s.world.asked)
        ∧ (¬ s.Steps key → ∃ records, s'.notes = s.notes ++ records
          ∧ s'.world = ⟨records.foldl (fun w r => host.record r w) s.world.world,
              s.world.asked⟩) := by
  intro s₀ s
  have hs : s = (s₀.after host events).recorded (s₀.asksAfter host events) :=
    after_recording host s₀ [] events
  obtain ⟨hsteps, hcalls⟩ := counted_after host (s := s₀) rfl rfl events
  rw [hs]
  refine ⟨rfl, hsteps, hcalls, fun key => ?_⟩
  generalize s₀.after host events = r
  generalize s₀.asksAfter host events = asked
  intro s'
  have hs' : s' = (r.handleKey host key).session.recorded (asked ++ r.asks host key) :=
    congrArg Turn.session (handleKey_recording host r asked key)
  rw [hs']
  refine ⟨fun address w hk hr => ?_, fun hno => ?_, fun hno => ?_⟩
  · rw [asks_of_steps (s := r) hk hr]
    rfl
  · rw [asks_eq_nil (s := r) hno, List.append_nil]
    rfl
  · obtain ⟨records, hn, hw⟩ := (idle_handleKey host (s := r) hno).noted
    refine ⟨records, hn, ?_⟩
    rw [asks_eq_nil (s := r) fun h => hno h.1, List.append_nil]
    exact congrArg (Recorded.mk · asked) hw

end Session

namespace Scripted

/-- A machine that loses its stack at the first step and fails at the second. -/
def flaky : Bench where
  events :=
    [{ change := fun m => { m with faults := [(.stackSegment, "lost")] } },
     { fault := some "bad read" }]
  files := { workingPlace := [] }
  outputLog := Path.ofString "out.log"
  messageLog := Path.ofString "msg.log"

def flakyHost : Host Bench :=
  host flaky.outputLog flaky.messageLog

/-- The first key steps though no stack can be shown then, the second is taken by the fault box, and
the third asks for a step that fails: one step counts out of two asked for. -/
theorem steps_count_of_flaky :
    let s := (Session.fresh "p.s" 60 22 {} (⟨flaky, []⟩ : Recorded Bench)).after flakyHost.recording
      [.key "s", .key "s", .key "s"]
    s.world.asked = [⟨⟨0x400000, 1, false, true⟩, some true⟩, ⟨⟨0x400004, 1, false, true⟩, none⟩]
      ∧ s.board.steps = 1
      ∧ s.calls = [⟨0x400000, 1, false, true⟩, ⟨0x400004, 1, false, true⟩] := by
  obtain ⟨-, hsteps, hcalls, -⟩ := Session.steps_count_answers flakyHost "p.s" 60 22 {} flaky
    [.key "s", .key "s", .key "s"]
  simp only [List.map_cons, List.map_nil, Event.recorded] at hsteps hcalls
  intro s
  have hasked : s.world.asked
      = [⟨⟨0x400000, 1, false, true⟩, some true⟩, ⟨⟨0x400004, 1, false, true⟩, none⟩] := by
    decide +kernel
  refine ⟨hasked, ?_, ?_⟩
  · rw [hsteps, hasked]
    rfl
  · rw [hcalls, hasked]
    rfl

end Scripted

end Stepboard
