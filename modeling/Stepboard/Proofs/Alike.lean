import Stepboard.Proofs.LogPanes
import Stepboard.Proofs.Related
/-!
# What a session depends on

A simulator depends on a part of the world if its answers, and what it makes of that part, hang on
that part alone. Two sessions that tell the same of it, and whose worlds are alike in that part,
take any key alike (`alike_handleKey`), however different their log files, log panes, scroll
positions and focus. What asks the simulator for nothing and leaves the fault box as it is leaves a
session alike to the one it was (`alike_of_idle`).
-/

namespace Stepboard

variable {σ τ : Type}

/-- Two results that are the same up to a part of the world, in which the worlds are alike. -/
inductive SameResult (view : σ → τ) {ε α : Type} :
    EStateM.Result ε σ α → EStateM.Result ε σ α → Prop
  | ok (a : α) {w w' : σ} (h : view w = view w') : SameResult view (.ok a w) (.ok a w')
  | error (e : ε) {w w' : σ} (h : view w = view w') : SameResult view (.error e w) (.error e w')

theorem SameResult.cases {view : σ → τ} {ε α : Type} {x y : EStateM.Result ε σ α}
    (h : SameResult view x y) :
    (∃ a w w', x = .ok a w ∧ y = .ok a w' ∧ view w = view w')
      ∨ ∃ e w w', x = .error e w ∧ y = .error e w' ∧ view w = view w' := by
  cases h with
  | ok a h => exact .inl ⟨a, _, _, rfl, rfl, h⟩
  | error e h => exact .inr ⟨e, _, _, rfl, rfl, h⟩

/-- A question whose result hangs on a part of the world alone. -/
def Query.DependsOn {α : Type} (view : σ → τ) (q : Query σ α) : Prop :=
  ∀ w w', view w = view w' → SameResult view (q w) (q w')

/-- A simulator that is a part of the world. -/
structure Simulator.DependsOn (view : σ → τ) (sim : Simulator σ) : Prop where
  currentPc : sim.currentPc.DependsOn view
  step (call : StepCall) : (sim.step call).DependsOn view
  formatRegisters (hex : Bool) : (sim.formatRegisters hex).DependsOn view
  disassemble (start : Int) : (sim.disassemble start).DependsOn view
  instructionAt (address : Int) : (sim.instructionAt address).DependsOn view
  readWord (address : Int) : (sim.readWord address).DependsOn view
  readByte (address : Int) : (sim.readByte address).DependsOn view
  undefinedSymbols : sim.undefinedSymbols.DependsOn view
  dataSegment : sim.dataSegment.DependsOn view
  stackSegment : sim.stackSegment.DependsOn view
  kernelDataSegment : sim.kernelDataSegment.DependsOn view

variable {view : σ → τ}

theorem Query.dependsOn_id {α : Type} (q : Query σ α) : q.DependsOn id := by
  intro w w' hw
  cases hw
  rcases q w with ⟨a, v⟩ | ⟨e, v⟩
  · exact .ok a rfl
  · exact .error e rfl

/-- Every simulator depends on the whole of the world. -/
theorem Simulator.dependsOn_id (sim : Simulator σ) : sim.DependsOn id :=
  ⟨Query.dependsOn_id _, fun _ => Query.dependsOn_id _, fun _ => Query.dependsOn_id _,
    fun _ => Query.dependsOn_id _, fun _ => Query.dependsOn_id _, fun _ => Query.dependsOn_id _,
    fun _ => Query.dependsOn_id _, Query.dependsOn_id _, Query.dependsOn_id _,
    Query.dependsOn_id _, Query.dependsOn_id _⟩

def ReadingRel.alike (view : σ → τ) : ReadingRel σ σ where
  Rel r q := ∀ w w', view w = view w' → SameResult view (r w) (q w')
  pure a _ _ hw := .ok a hw
  bind {α β x y f g} hx hf w w' hw := by
    simp only [Bind.bind, EStateM.bind]
    rcases (hx w w' hw).cases with ⟨a, v, v', hr, hr', hv⟩ | ⟨e, v, v', hr, hr', hv⟩ <;>
      rw [hr, hr']
    · exact hf a v v' hv
    · exact .error e hv
  throw e _ _ hw := .error e hw

theorem alike_lift {α : Type} {q : Query σ α} (h : q.DependsOn view) :
    (ReadingRel.alike view).Rel q.lift q.lift := by
  intro w w' hw
  unfold Query.lift
  rcases (h w w' hw).cases with ⟨a, v, v', hr, hr', hv⟩ | ⟨e, v, v', hr, hr', hv⟩ <;> rw [hr, hr']
  · exact .ok a hv
  · exact .error e.toFailure hv

theorem Simulator.DependsOn.related {sim : Simulator σ} (h : sim.DependsOn view) :
    sim.Related (ReadingRel.alike view) sim where
  currentPc := alike_lift h.currentPc
  formatRegisters hex := alike_lift (h.formatRegisters hex)
  disassemble start := alike_lift (h.disassemble start)
  instructionAt address := alike_lift (h.instructionAt address)
  readWord address := alike_lift (h.readWord address)
  readByte address := alike_lift (h.readByte address)
  dataSegment := alike_lift h.dataSegment
  stackSegment := alike_lift h.stackSegment
  kernelDataSegment := alike_lift h.kernelDataSegment

/-- Two guarded steps that did the same, and left worlds that are alike. -/
structure StepReport.Alike (view : σ → τ) (r r' : StepReport σ) : Prop where
  outcome : r.outcome = r'.outcome
  world : view r.world = view r'.world
  calls : r.calls = r'.calls
  notes : r.notes = r'.notes

namespace Simulator

variable {sim : Simulator σ} (h : sim.DependsOn view)

include h

theorem alike_stepAt (address : Int) {w w' : σ} (hw : view w = view w') :
    (sim.stepAt address w).Alike view (sim.stepAt address w') := by
  unfold stepAt
  dsimp only
  rcases (h.step (singleStep address) w w' hw).cases with
    ⟨goesOn, v, v', hr, hr', hv⟩ | ⟨e, v, v', hr, hr', hv⟩ <;> rw [hr, hr']
  · cases goesOn with
    | true => exact ⟨rfl, hv, rfl, rfl⟩
    | false =>
      dsimp only
      rcases (h.currentPc v v' hv).cases with ⟨pc, u, u', hp, hp', hu⟩ | ⟨e, u, u', hp, hp', hu⟩ <;>
        rw [hp, hp'] <;> exact ⟨rfl, hu, rfl, rfl⟩
  · cases e <;> exact ⟨rfl, hv, rfl, rfl⟩

theorem alike_guardedStep {w w' : σ} (hw : view w = view w') :
    (sim.guardedStep w).Alike view (sim.guardedStep w') := by
  unfold guardedStep
  rcases (h.currentPc w w' hw).cases with
    ⟨address, v, v', hp, hp', hv⟩ | ⟨e, v, v', hp, hp', hv⟩ <;> rw [hp, hp'] <;> dsimp only
  · split_ifs with hpc
    · exact ⟨rfl, hv, rfl, rfl⟩
    · rcases (h.undefinedSymbols v v' hv).cases with
        ⟨text, u, u', hs, hs', hu⟩ | ⟨e, u, u', hs, hs', hu⟩ <;> rw [hs, hs'] <;> dsimp only
      · split_ifs with hblank
        · exact alike_stepAt h address hu
        · exact ⟨rfl, hu, rfl, rfl⟩
      · exact ⟨rfl, hu, rfl, rfl⟩
  · exact ⟨rfl, hv, rfl, rfl⟩

end Simulator

namespace Session

/-- Two sessions that tell the same of the simulator, in worlds that are alike. -/
structure Alike (view : σ → τ) (s s' : Session σ) : Prop where
  face : s'.board.face = s.board.face
  options : s'.board.options = s.board.options
  listing : s'.board.listing = s.board.listing
  steps : s'.board.steps = s.board.steps
  overlay : s'.board.overlay = s.board.overlay
  exitMessage : s'.board.exitMessage = s.board.exitMessage
  calls : s'.calls = s.calls
  world : view s'.world = view s.world

namespace Alike

variable {s s' s'' : Session σ}

theorem symm (h : Alike view s s') : Alike view s' s :=
  ⟨h.face.symm, h.options.symm, h.listing.symm, h.steps.symm, h.overlay.symm, h.exitMessage.symm,
    h.calls.symm, h.world.symm⟩

theorem trans (h : Alike view s s') (h' : Alike view s' s'') : Alike view s s'' :=
  ⟨h'.face.trans h.face, h'.options.trans h.options, h'.listing.trans h.listing,
    h'.steps.trans h.steps, h'.overlay.trans h.overlay, h'.exitMessage.trans h.exitMessage,
    h'.calls.trans h.calls, h'.world.trans h.world⟩

end Alike

end Session

/-- Two turns that came to the same, and left sessions that are alike. -/
structure Turn.Alike {α : Type} (view : σ → τ) (t t' : Turn σ α) : Prop where
  result : t'.result = t.result
  session : t.session.Alike view t'.session

namespace Session

variable {host : Host σ} (hrecord : ∀ r w, view (host.record r w) = view w)

section Idle

include hrecord

/-- What asks the simulator for nothing and leaves the fault box alone leaves a session alike. -/
theorem alike_of_idle {s s' : Session σ} (h : Idle host s s')
    (ho : s'.board.overlay = s.board.overlay) : s.Alike view s' := by
  have hfold : ∀ (records : List Record) (w : σ),
      view (records.foldl (fun w r => host.record r w) w) = view w := by
    intro records
    induction records with
    | nil => exact fun w => rfl
    | cons r rest ih => exact fun w => (ih _).trans (hrecord r w)
  obtain ⟨records, -, hw⟩ := h.noted
  exact ⟨h.face, h.options, h.listing, h.steps, ho, h.exitMessage, h.calls, hw ▸ hfold records _⟩

theorem alike_noteAll (records : List Record) (s : Session σ) :
    s.Alike view (s.noteAll host records) :=
  alike_of_idle hrecord (idle_noteAll host records s) (by rw [board_noteAll])

theorem alike_refreshLogs (s : Session σ) : s.Alike view (s.refreshLogs host).session :=
  alike_of_idle hrecord (idle_refreshLogs host s) (board_refreshLogs host s).2

theorem alike_compose (s : Session σ) : s.Alike view s.compose.1 := by
  refine alike_of_idle hrecord (idle_compose host s) ?_
  simp only [compose, Board.compose, Board.drawTitles]
  split <;> rfl

/-- A key that only looks around leaves a session alike, which goes on. -/
theorem alike_look (hread : ∀ id w, host.logFile id w ≠ .error .impossible) {s : Session σ}
    {key : String} (ho : s.board.overlay = none) (hstep : Action.ofKey key ≠ .step)
    (hquit : Action.ofKey key ≠ .quit) :
    (s.handleKey host key).result = .ok true
      ∧ s.Alike view (s.handleKey host key).session := by
  have hsteps : ¬ s.Steps key := fun h => hstep h.2
  have hidle := idle_handleKey host hsteps
  have hturn := handleKey_of_ne_quit host ho hquit
  unfold acting at hturn
  rw [if_neg hstep] at hturn
  have hlogs := refreshLogs_of_readable host
    (s := { s with board := s.board.look (Action.ofKey key) }) hread
  have hresult : (s.handleKey host key).result = .ok true := by
    rw [hturn]
    unfold settle goingOn
    dsimp only
    rw [hlogs]
    rfl
  refine ⟨hresult, alike_of_idle hrecord hidle ?_⟩
  have hlook : (s.board.look (Action.ofKey key)).overlay = s.board.overlay := by
    cases Action.ofKey key <;> rfl
  rw [hturn]
  exact (board_refreshLogs host _).2.trans hlook

theorem alike_showFault {s s' : Session σ} (h : s.Alike view s') (message : String) :
    (s.showFault host message).Alike view (s'.showFault host message) := by
  refine { h with overlay := rfl, world := ?_ }
  exact (hrecord _ _).trans (h.world.trans (hrecord _ _).symm)

theorem alike_takeOutcome {s s' : Session σ} (h : s.Alike view s') (o : StepOutcome) :
    (s.takeOutcome host o).Alike view (s'.takeOutcome host o) := by
  obtain ⟨-, hface, hoptions, hlisting⟩ := takeOutcome_keeps host s o
  obtain ⟨-, hface', hoptions', hlisting'⟩ := takeOutcome_keeps host s' o
  refine ⟨?_, ?_, ?_, ?_, ?_, ?_, ?_, ?_⟩
  · rw [hface, hface', h.face]
  · rw [hoptions, hoptions', h.options]
  · rw [hlisting, hlisting', h.listing]
  · rw [steps_takeOutcome, steps_takeOutcome, h.steps]
  · rw [board_takeOutcome, board_takeOutcome]
    cases o.status with
    | fault => rfl
    | ok | halted => exact h.overlay
  · rw [exitMessage_takeOutcome, exitMessage_takeOutcome, h.exitMessage]
  · rw [calls_takeOutcome, calls_takeOutcome, h.calls]
  · unfold takeOutcome
    cases o.status <;> simp only [note, showFault, hrecord, h.world]

end Idle

section Simulator

variable (hsim : host.simulator.DependsOn view)

include hsim

theorem alike_refresh {s s' : Session σ} (h : s.Alike view s') :
    (s.refresh host).Alike view (s'.refresh host) := by
  unfold refresh pull
  rw [h.options, h.listing]
  rcases (Simulator.related_snapshot hsim.related s.board.options s.board.listing s.world s'.world
    h.world.symm).cases with ⟨a, v, v', hr, hr', hv⟩ | ⟨e, v, v', hr, hr', hv⟩ <;> rw [hr, hr']
  · obtain ⟨hoptions, hlisting, hoverlay, hsteps⟩ := s.board.showSnapshot_keeps a
    obtain ⟨hoptions', hlisting', hoverlay', hsteps'⟩ := s'.board.showSnapshot_keeps a
    refine ⟨rfl, ⟨?_, hoptions'.trans (h.options.trans hoptions.symm),
      hlisting'.trans (h.listing.trans hlisting.symm), hsteps'.trans (h.steps.trans hsteps.symm),
      hoverlay'.trans (h.overlay.trans hoverlay.symm), h.exitMessage, h.calls, hv.symm⟩⟩
    exact (s'.board.face_showSnapshot a).trans (s.board.face_showSnapshot a).symm
  · exact ⟨rfl, { h with world := hv.symm }⟩

theorem alike_readListing {s s' : Session σ} (h : s.Alike view s') :
    (s.readListing host).Alike view (s'.readListing host) := by
  unfold readListing pull
  rcases (Simulator.related_currentListing hsim.related s.world s'.world h.world.symm).cases with
    ⟨a, v, v', hr, hr', hv⟩ | ⟨e, v, v', hr, hr', hv⟩ <;> rw [hr, hr']
  · exact ⟨rfl, { h with listing := rfl, world := hv.symm }⟩
  · exact ⟨rfl, { h with world := hv.symm }⟩

theorem alike_load {s s' : Session σ} (h : s.Alike view s') :
    (s.load host).Alike view (s'.load host) := by
  have hlisting := alike_readListing hsim h
  unfold load Turn.andThen
  rw [hlisting.result]
  rcases (s.readListing host).result with e | u
  · exact ⟨hlisting.result, hlisting.session⟩
  · exact alike_refresh hsim hlisting.session

include hrecord

theorem alike_advance {s s' : Session σ} (h : s.Alike view s') :
    (s.advance host).Alike view (s'.advance host) := by
  have hreport := Simulator.alike_guardedStep hsim h.world.symm
  -- Noting leaves either session alike to itself, so that only the reports count.
  have hreported : (s.reported host).Alike view (s'.reported host) := by
    have hbegun : Alike view
        { s with world := (host.simulator.guardedStep s.world).world
                 calls := s.calls ++ (host.simulator.guardedStep s.world).calls }
        { s' with world := (host.simulator.guardedStep s'.world).world
                  calls := s'.calls ++ (host.simulator.guardedStep s'.world).calls } :=
      { h with calls := by rw [h.calls, hreport.calls], world := hreport.world.symm }
    exact ((alike_noteAll hrecord _ _).symm.trans hbegun).trans (alike_noteAll hrecord _ _)
  have houtcome := hreport.outcome
  rcases advance_cases host s with ⟨o, ho, ha⟩ | ⟨e, he, ha⟩ <;>
    rcases advance_cases host s' with ⟨o', ho', ha'⟩ | ⟨e', he', ha'⟩ <;> rw [ha, ha']
  · rw [ho, ho'] at houtcome
    cases houtcome
    exact ⟨rfl, alike_takeOutcome hrecord hreported o⟩
  · rw [ho, he'] at houtcome
    cases houtcome
  · rw [he, ho'] at houtcome
    cases houtcome
  · rw [he, he'] at houtcome
    cases houtcome
    exact ⟨rfl, hreported⟩

theorem alike_step {s s' : Session σ} (h : s.Alike view s') :
    (s.step host).Alike view (s'.step host) := by
  have hadvance := alike_advance hrecord hsim h
  unfold step
  dsimp only
  rw [hadvance.result]
  rcases (s.advance host).result with e | o
  · exact ⟨rfl, hadvance.session⟩
  · dsimp only
    split_ifs
    · have hrefresh := alike_refresh hsim hadvance.session
      exact ⟨by simp only [goingOn, hrefresh.result], hrefresh.session⟩
    · exact ⟨rfl, hadvance.session⟩

end Simulator

section Readable

variable (hread : ∀ id w, host.logFile id w ≠ .error .impossible)

include hrecord hread

theorem alike_shown {s s' : Session σ} (h : s.Alike view s') :
    (goingOn (s.refreshLogs host)).Alike view (goingOn (s'.refreshLogs host)) := by
  have hok := refreshLogs_of_readable host hread (s := s)
  have hok' := refreshLogs_of_readable host hread (s := s')
  refine ⟨by simp only [goingOn, hok, hok'], ?_⟩
  exact ((alike_refreshLogs hrecord s).symm.trans h).trans (alike_refreshLogs hrecord s')

theorem alike_settle {t t' : Turn σ Bool} (h : t.Alike view t') :
    (settle host t).Alike view (settle host t') := by
  obtain ⟨result, s⟩ := t
  obtain ⟨result', s'⟩ := t'
  obtain ⟨hresult, hs⟩ := h
  cases hresult
  rcases result with e | goesOn
  · cases e with
    | fault message => exact alike_shown hrecord hread (alike_showFault hrecord hs message)
    | file _ | undefined _ _ | inverted _ | unsupported _ => exact ⟨rfl, hs⟩
  · cases goesOn with
    | true => exact alike_shown hrecord hread hs
    | false => exact ⟨rfl, hs⟩

variable (hsim : host.simulator.DependsOn view)

include hsim

theorem alike_start {s s' : Session σ} (h : s.Alike view s') :
    (s.start host).Alike view (s'.start host) := by
  have hreset : Alike view { s with board := s.board.resetStreams }
      { s' with board := s'.board.resetStreams } :=
    ⟨h.face, h.options, h.listing, h.steps, h.overlay, h.exitMessage, h.calls, h.world⟩
  have hload := alike_load hsim hreset
  refine alike_settle hrecord hread ⟨?_, hload.session⟩
  simp only [goingOn, hload.result]

/-- A key comes to the same in sessions that are alike, and leaves them alike. -/
theorem alike_handleKey {s s' : Session σ} (h : s.Alike view s') (key : String) :
    (s.handleKey host key).Alike view (s'.handleKey host key) := by
  rcases ho : s.board.overlay with _ | text
  · have ho' : s'.board.overlay = none := h.overlay.trans ho
    by_cases hquit : Action.ofKey key = .quit
    · simp only [handleKey, ho, ho', hquit, act]
      exact ⟨rfl, h⟩
    · by_cases hstep : Action.ofKey key = .step
      · rw [handleKey_of_steps host ⟨ho, hstep⟩, handleKey_of_steps host ⟨ho', hstep⟩]
        exact alike_settle hrecord hread (alike_step hrecord hsim h)
      · obtain ⟨hresult, hlook⟩ := alike_look hrecord hread ho hstep hquit
        obtain ⟨hresult', hlook'⟩ := alike_look hrecord hread ho' hstep hquit
        exact ⟨hresult'.trans hresult.symm, (hlook.symm.trans h).trans hlook'⟩
  · have ho' : s'.board.overlay = some text := h.overlay.trans ho
    simp only [handleKey, ho, ho']
    exact ⟨rfl, { h with overlay := rfl }⟩

end Readable

end Session

end Stepboard
