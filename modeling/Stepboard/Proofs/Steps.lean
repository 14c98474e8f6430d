import Stepboard.Proofs.Events
/-!
# What a step key does

A guarded step asks the simulator for a step exactly where there is an instruction to step and no
symbol is undefined (`guardedStep_of_ready`, `guardedStep_cases`). A session takes over what came of
it, and the panes are then refreshed in one go or, where any read fails, not at all
(`refresh_cases`).
-/

namespace Stepboard

namespace Simulator

variable {σ : Type} (sim : Simulator σ)

/-- In `w` there is an instruction to step at an address and no symbol is undefined; once asked that
much, the simulator is in `w'`. -/
def Ready (w : σ) (address : Int) (w' : σ) : Prop :=
  ∃ w₁ text, sim.currentPc w = .ok address w₁ ∧ address ≠ 0 ∧
    sim.undefinedSymbols w₁ = .ok text w' ∧ Text.strip text = ""

variable {sim}

theorem guardedStep_of_ready {w w' : σ} {address : Int} (h : sim.Ready w address w') :
    sim.guardedStep w = sim.stepAt address w' := by
  obtain ⟨w₁, text, hpc, hne, hsym, hblank⟩ := h
  simp [guardedStep, hpc, hne, hsym, hblank]

/-- Where a guarded step asks for no step, it fails or reports a fault. -/
theorem guardedStep_cases (sim : Simulator σ) (w : σ) :
    (∃ address w', sim.Ready w address w') ∨
      ∃ outcome w', sim.guardedStep w = { outcome, world := w' } ∧
        ∀ o, outcome = .ok o → o.status = .fault := by
  rcases hpc : sim.currentPc w with ⟨address, w₁⟩ | ⟨e, w₁⟩
  · by_cases hne : address = 0
    · exact .inr ⟨.ok ⟨.fault, 0, "no program counter to step from"⟩, w₁,
        by simp [guardedStep, hpc, hne], fun o ho => by cases ho; rfl⟩
    · rcases hsym : sim.undefinedSymbols w₁ with ⟨text, w₂⟩ | ⟨e, w₂⟩
      · by_cases hblank : Text.strip text = ""
        · exact .inl ⟨address, w₂, w₁, text, hpc, hne, hsym, hblank⟩
        · exact .inr ⟨.error (.undefined address (Text.strip text)), w₂,
            by simp [guardedStep, hpc, hne, hsym, hblank], fun o ho => nomatch ho⟩
      · exact .inr ⟨.error e.toFailure, w₂, by simp [guardedStep, hpc, hne, hsym],
          fun o ho => nomatch ho⟩
  · exact .inr ⟨.error e.toFailure, w₁, by simp [guardedStep, hpc], fun o ho => nomatch ho⟩

theorem calls_stepAt (address : Int) (w : σ) :
    (sim.stepAt address w).calls = [singleStep address] := by
  unfold stepAt
  dsimp only
  split
  all_goals try split
  all_goals rfl

/-- A step comes out well exactly if the simulator says that the program can go on. -/
theorem stepAt_ok_iff (address : Int) (w : σ) :
    (∃ o, (sim.stepAt address w).outcome = .ok o ∧ o.status = .ok) ↔
      ∃ w', sim.step (singleStep address) w = .ok true w' := by
  unfold stepAt
  dsimp only
  split <;> rename_i h
  · simp [h]
  · simp [h]
  · simp [h]
  · split <;> simp [h]

theorem guardedStep_ok_iff (w : σ) :
    (∃ o, (sim.guardedStep w).outcome = .ok o ∧ o.status = .ok) ↔
      ∃ address w' w'', sim.Ready w address w' ∧
        sim.step (singleStep address) w' = .ok true w'' := by
  constructor
  · rintro ⟨o, ho, hs⟩
    rcases guardedStep_cases sim w with ⟨address, w', hr⟩ | ⟨outcome, w', hg, hf⟩
    · rw [guardedStep_of_ready hr] at ho
      obtain ⟨w'', h⟩ := (stepAt_ok_iff address w').1 ⟨o, ho, hs⟩
      exact ⟨address, w', w'', hr, h⟩
    · rw [hg] at ho
      rw [hf o ho] at hs
      cases hs
  · rintro ⟨address, w', w'', hr, h⟩
    rw [guardedStep_of_ready hr]
    exact (stepAt_ok_iff address w').2 ⟨w'', h⟩

end Simulator

namespace Session

variable {σ : Type} (host : Host σ)

section TakeOutcome

variable (s : Session σ) (o : StepOutcome)

theorem board_takeOutcome : (s.takeOutcome host o).board =
    match o.status with
    | .halted => { s.board with exitMessage := o.message }
    | .fault => s.board.showFault o.message
    | .ok => { s.board with steps := s.board.steps + 1 } := by
  unfold takeOutcome
  cases o.status <;> rfl

/-- Nothing that is shown of the simulator changes before the refresh. -/
theorem takeOutcome_keeps :
    (s.takeOutcome host o).board.panes = s.board.panes
      ∧ (s.takeOutcome host o).board.face = s.board.face
      ∧ (s.takeOutcome host o).board.options = s.board.options
      ∧ (s.takeOutcome host o).board.listing = s.board.listing := by
  rw [board_takeOutcome]
  cases o.status <;> exact ⟨rfl, rfl, rfl, rfl⟩

theorem steps_takeOutcome :
    (s.takeOutcome host o).board.steps = s.board.steps + if o.status = .ok then 1 else 0 := by
  rw [board_takeOutcome]
  cases o.status <;> rfl

theorem exitMessage_takeOutcome : (s.takeOutcome host o).board.exitMessage =
    if o.status = .halted then o.message else s.board.exitMessage := by
  rw [board_takeOutcome]
  cases o.status <;> rfl

theorem calls_takeOutcome : (s.takeOutcome host o).calls = s.calls := by
  unfold takeOutcome
  dsimp only
  split <;> rfl

theorem overlay_takeOutcome (h : o.status ≠ .fault) :
    (s.takeOutcome host o).board.overlay = s.board.overlay := by
  rw [board_takeOutcome]
  cases hs : o.status with
  | fault => exact absurd hs h
  | ok | halted => rfl

theorem overlay_takeOutcome_fault (h : o.status = .fault) :
    ∃ text, (s.takeOutcome host o).board.overlay = some text ∧ text ≠ "" := by
  simp only [takeOutcome, h]
  exact overlay_showFault host _ _

end TakeOutcome

/-- A session right after its guarded step, which it has noted but not taken over. -/
def reported (s : Session σ) : Session σ :=
  let report := host.simulator.guardedStep s.world
  noteAll host { s with world := report.world, calls := s.calls ++ report.calls } report.notes

theorem board_reported (s : Session σ) : (s.reported host).board = s.board :=
  board_noteAll host _ _

theorem calls_reported (s : Session σ) :
    (s.reported host).calls = s.calls ++ (host.simulator.guardedStep s.world).calls :=
  (idle_noteAll host _ _).calls

theorem advance_cases (s : Session σ) :
    (∃ o, (host.simulator.guardedStep s.world).outcome = .ok o
        ∧ s.advance host = ⟨.ok o, (s.reported host).takeOutcome host o⟩)
      ∨ ∃ e, (host.simulator.guardedStep s.world).outcome = .error e
        ∧ s.advance host = ⟨.error e, s.reported host⟩ := by
  simp only [advance]
  split <;> rename_i h
  · exact .inl ⟨_, h, rfl⟩
  · exact .inr ⟨_, h, rfl⟩

theorem step_cases (s : Session σ) :
    (∃ o, (s.advance host).result = .ok o ∧ o.status ≠ .halted
        ∧ s.step host = goingOn ((s.advance host).session.refresh host))
      ∨ (∃ o, (s.advance host).result = .ok o ∧ o.status = .halted
        ∧ s.step host = ⟨.ok false, (s.advance host).session⟩)
      ∨ ∃ e, (s.advance host).result = .error e
        ∧ s.step host = ⟨.error e, (s.advance host).session⟩ := by
  simp only [step]
  split
  · rename_i o h
    by_cases hs : o.status = .halted
    · exact .inr (.inl ⟨o, h, hs, by simp [StepOutcome.continuable, hs]⟩)
    · exact .inl ⟨o, h, hs, by simp [StepOutcome.continuable, hs]⟩
  · rename_i e h
    exact .inr (.inr ⟨e, h, rfl⟩)

theorem advance_ok {s : Session σ} {o : StepOutcome} (h : (s.advance host).result = .ok o) :
    (host.simulator.guardedStep s.world).outcome = .ok o
      ∧ (s.advance host).session = (s.reported host).takeOutcome host o := by
  rcases advance_cases host s with ⟨o', hg, ha⟩ | ⟨e, -, ha⟩ <;> rw [ha] at h <;> cases h
  exact ⟨hg, by rw [ha]⟩

/-- The board before a refresh tells of the simulator what it told before the step. -/
theorem advance_keeps (s : Session σ) :
    (s.advance host).session.board.panes = s.board.panes
      ∧ (s.advance host).session.board.face = s.board.face
      ∧ (s.advance host).session.board.options = s.board.options
      ∧ (s.advance host).session.board.listing = s.board.listing := by
  rcases advance_cases host s with ⟨o, -, h⟩ | ⟨e, -, h⟩ <;> rw [h]
  · have hkeeps := takeOutcome_keeps host (s.reported host) o
    rwa [board_reported] at hkeeps
  · rw [board_reported]
    exact ⟨rfl, rfl, rfl, rfl⟩

/-- The panes are refreshed from one snapshot, or the board stays as it is. -/
theorem refresh_cases (s : Session σ) :
    (∃ snapshot w, host.simulator.snapshot s.board.options s.board.listing s.world = .ok snapshot w
        ∧ s.refresh host
          = ⟨.ok (), { s with world := w, board := s.board.showSnapshot snapshot }⟩)
      ∨ ∃ e w, host.simulator.snapshot s.board.options s.board.listing s.world = .error e w
        ∧ s.refresh host = ⟨.error e, { s with world := w }⟩ := by
  simp only [refresh, pull]
  split <;> rename_i h
  · exact .inl ⟨_, _, h, rfl⟩
  · exact .inr ⟨_, _, h, rfl⟩

/-- Whether it completes or not, a refresh neither steps nor shows or dismisses a fault. -/
theorem refresh_keeps (s : Session σ) :
    (s.refresh host).session.board.options = s.board.options
      ∧ (s.refresh host).session.board.listing = s.board.listing
      ∧ (s.refresh host).session.board.overlay = s.board.overlay
      ∧ (s.refresh host).session.board.steps = s.board.steps
      ∧ (s.refresh host).session.calls = s.calls := by
  rcases refresh_cases host s with ⟨snapshot, w, -, hr⟩ | ⟨e, w, -, hr⟩ <;> rw [hr]
  · obtain ⟨ho, hl, hov, hs⟩ := s.board.showSnapshot_keeps snapshot
    exact ⟨ho, hl, hov, hs, rfl⟩
  · exact ⟨rfl, rfl, rfl, rfl, rfl⟩

theorem board_refresh_error {s : Session σ} {e : Failure}
    (h : (s.refresh host).result = .error e) : (s.refresh host).session.board = s.board := by
  rcases refresh_cases host s with ⟨snapshot, w, -, hr⟩ | ⟨e', w, -, hr⟩
  · rw [hr] at h
    cases h
  · rw [hr]

theorem readListing_keeps (s : Session σ) :
    (s.readListing host).session.board.face = s.board.face
      ∧ (s.readListing host).session.board.options = s.board.options
      ∧ (s.readListing host).session.board.steps = s.board.steps
      ∧ (s.readListing host).session.calls = s.calls := by
  unfold readListing pull
  split <;> exact ⟨rfl, rfl, rfl, rfl⟩

theorem load_cases (s : Session σ) :
    (∃ e, (s.readListing host).result = .error e ∧ s.load host = s.readListing host)
      ∨ (s.readListing host).result = .ok ()
        ∧ s.load host = (s.readListing host).session.refresh host := by
  unfold load Turn.andThen
  split <;> rename_i h
  · exact .inr ⟨h, rfl⟩
  · exact .inl ⟨_, h, rfl⟩

end Session

end Stepboard
