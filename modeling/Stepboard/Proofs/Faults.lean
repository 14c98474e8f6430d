import Stepboard.Command
import Stepboard.Proofs.LogPanes
import Stepboard.Proofs.Related
/-!
# What can stop a turn

A simulator that fails by faults alone is read by faults alone, but where its data segments come
with bounds in the wrong order (`faultsBut_snapshot`), and a fault stops no turn. So, with log files
that can be asked about, a key is stopped only by such bounds or by symbols that are undefined as it
steps (`handleKey_cases`), and it ends the session only as a quit key or by a step after which the
program cannot go on.
-/

namespace Stepboard

variable {σ : Type}

/-- A question that fails by faults alone. -/
def Query.OnlyFaults {α : Type} (q : Query σ α) : Prop :=
  ∀ w e w', q w = .error e w' → ∃ message, e = .fault message

/-- Work on answers that fails by faults alone. -/
def Reading.OnlyFaults {α : Type} (r : Reading σ α) : Prop :=
  ∀ w e w', r w = .error e w' → ∃ message, e = .fault message

/-- Work on answers that is stopped in the states of `Q` by bounds in the wrong order, and in others
by faults alone. -/
structure Reading.FaultsBut {α : Type} (r : Reading σ α) (Q : σ → Prop) : Prop where
  inverted : ∀ w, Q w → ∃ e w', r w = .error (.inverted e) w'
  fault : ∀ w e w', ¬ Q w → r w = .error e w' → ∃ message, e = .fault message

/-- A simulator that fails by faults alone. -/
structure Simulator.OnlyFaults (sim : Simulator σ) : Prop where
  currentPc : sim.currentPc.OnlyFaults
  step (call : StepCall) : (sim.step call).OnlyFaults
  formatRegisters (hex : Bool) : (sim.formatRegisters hex).OnlyFaults
  disassemble (start : Int) : (sim.disassemble start).OnlyFaults
  instructionAt (address : Int) : (sim.instructionAt address).OnlyFaults
  readWord (address : Int) : (sim.readWord address).OnlyFaults
  readByte (address : Int) : (sim.readByte address).OnlyFaults
  undefinedSymbols : sim.undefinedSymbols.OnlyFaults
  dataSegment : sim.dataSegment.OnlyFaults
  stackSegment : sim.stackSegment.OnlyFaults
  kernelDataSegment : sim.kernelDataSegment.OnlyFaults

/-- A simulator whose data segments come with their bounds in order. -/
structure Simulator.Ordered (sim : Simulator σ) : Prop where
  data : ∀ w low high w', sim.dataSegment w = .ok (low, high) w' → low ≤ high
  kernel : ∀ w low high w', sim.kernelDataSegment w = .ok (low, high) w' → low ≤ high

namespace Reading

variable {α β : Type}

theorem onlyFaults_pure (a : α) : OnlyFaults (pure a : Reading σ α) :=
  fun _ _ _ h => nomatch h

theorem onlyFaults_bind {x : Reading σ α} {f : α → Reading σ β} (hx : OnlyFaults x)
    (hf : ∀ w a w', x w = .ok a w' → OnlyFaults (f a)) : OnlyFaults (x >>= f) := by
  intro w e w' h
  rcases bind_error h with hxw | ⟨a, v, hxw, hfv⟩
  · exact hx w e w' hxw
  · exact hf w a v hxw v e w' hfv

theorem onlyFaults_lift {q : Query σ α} (h : q.OnlyFaults) : OnlyFaults q.lift := by
  intro w e w' hr
  unfold Query.lift at hr
  rcases hq : q w with ⟨a, v⟩ | ⟨e', v⟩ <;> rw [hq] at hr <;> cases hr
  obtain ⟨message, rfl⟩ := h w e' w' hq
  exact ⟨message, rfl⟩

theorem faultsBut_after {x : Reading σ α} {f : α → Reading σ β} {Q : α → σ → Prop}
    (hx : OnlyFaults x) (hf : ∀ a, FaultsBut (f a) (Q a)) :
    FaultsBut (x >>= f) fun w => ∃ a v, x w = .ok a v ∧ Q a v := by
  constructor
  · rintro w ⟨a, v, hxw, hq⟩
    obtain ⟨e, w', hfv⟩ := (hf a).inverted v hq
    exact ⟨e, w', (bind_of_ok hxw f).trans hfv⟩
  · intro w e w' hq h
    rcases bind_error h with hxw | ⟨a, v, hxw, hfv⟩
    · exact hx w e w' hxw
    · exact (hf a).fault v e w' (fun hv => hq ⟨a, v, hxw, hv⟩) hfv

theorem faultsBut_before {x : Reading σ α} {f : α → Reading σ β} {Q : σ → Prop}
    (hx : FaultsBut x Q) (hf : ∀ a, OnlyFaults (f a)) : FaultsBut (x >>= f) Q := by
  constructor
  · intro w hq
    obtain ⟨e, w', hxw⟩ := hx.inverted w hq
    exact ⟨e, w', bind_of_error hxw f⟩
  · intro w e w' hq h
    rcases bind_error h with hxw | ⟨a, v, -, hfv⟩
    · exact hx.fault w e w' hq hxw
    · exact hf a v e w' hfv

theorem FaultsBut.congr {r : Reading σ α} {Q Q' : σ → Prop} (h : r.FaultsBut Q)
    (hq : ∀ w, Q w ↔ Q' w) : r.FaultsBut Q' :=
  funext (fun w => propext (hq w)) ▸ h

end Reading

/-- Failing by faults alone, as a relation of work to itself. -/
def MonadRel.faults (σ : Type) : MonadRel (EStateM Failure σ) (EStateM Failure σ) where
  Rel r _ := Reading.OnlyFaults r
  pure := Reading.onlyFaults_pure
  bind hx hf := Reading.onlyFaults_bind hx fun _ a _ _ => hf a

namespace Simulator

section Bounds

variable (sim : Simulator σ)

/-- The data segments come in `w` with bounds in the wrong order. -/
def DataInverted (w : σ) : Prop :=
  ∃ user v kernel v', sim.dataSegment w = .ok user v ∧ sim.kernelDataSegment v = .ok kernel v'
    ∧ (user.2 < user.1 ∨ kernel.2 < kernel.1)

/-- What the panes show is read in `w` as far as the data segments, and these come with bounds in
the wrong order. -/
def ReadsInverted (options : ViewOptions) (lines : List String) (w : σ) : Prop :=
  ∃ registers v instructions v', sim.registersContent options.hexRegisters w = .ok registers v
    ∧ sim.listingContent lines v = .ok instructions v' ∧ sim.DataInverted v'

variable {sim}

theorem not_readsInverted (ho : sim.Ordered) (options : ViewOptions) (lines : List String) (w : σ) :
    ¬ sim.ReadsInverted options lines w := by
  rintro ⟨-, -, -, v, -, -, user, u, kernel, u', huser, hkernel, hlt⟩
  have huser' := ho.data v user.1 user.2 u huser
  have hkernel' := ho.kernel u kernel.1 kernel.2 u' hkernel
  omega

end Bounds

open Reading

section Segments

variable {label : String} {low high : Int}

theorem segment_of_le (h : low ≤ high) :
    (segment label low high : Reading σ Memory.Segment) = pure ⟨label, low, high, h⟩ := by
  unfold segment Memory.Segment.ofBounds
  rw [dif_pos h]

theorem segment_of_lt (h : high < low) : (segment label low high : Reading σ Memory.Segment)
    = throw (.inverted ⟨label, low, high⟩) := by
  unfold segment Memory.Segment.ofBounds
  rw [dif_neg (Int.not_le.mpr h)]

end Segments

variable {sim : Simulator σ} (hf : sim.OnlyFaults)

include hf

theorem onlyFaults_currentListing : Reading.OnlyFaults sim.currentListing :=
  onlyFaults_bind (onlyFaults_lift hf.currentPc) fun _ _ _ _ =>
    onlyFaults_bind (onlyFaults_lift (hf.disassemble _)) fun _ _ _ _ => onlyFaults_pure _

theorem onlyFaults_instructionText (pc : Int) : Reading.OnlyFaults (sim.instructionText pc) := by
  unfold instructionText
  split_ifs
  · exact onlyFaults_pure ""
  · exact onlyFaults_lift (hf.instructionAt pc)

theorem onlyFaults_formatMemory (low high : Int) (base : Memory.Base) :
    Reading.OnlyFaults (Memory.formatMemory sim.memory low high base) := by
  have hword : ∀ a, (MonadRel.faults σ).Rel (sim.memory.readWord a) (sim.memory.readWord a) :=
    fun a => onlyFaults_lift (hf.readWord a)
  have hbyte : ∀ a, (MonadRel.faults σ).Rel (sim.memory.readByte a) (sim.memory.readByte a) :=
    fun a => onlyFaults_lift (hf.readByte a)
  exact Memory.related_formatMemory (MonadRel.faults σ) base
    ⟨fun _ _ => hword _, fun _ _ => hbyte _⟩

theorem onlyFaults_dumpContent (base : Memory.Base) (segments : List Memory.Segment) :
    Reading.OnlyFaults (sim.dumpContent segments base.radix) := by
  have hblocks : ∀ segments, Reading.OnlyFaults (sim.dumpBlocks base.radix segments) := by
    intro segments
    induction segments with
    | nil => exact onlyFaults_pure []
    | cons s rest ih =>
      refine onlyFaults_bind ?_ fun _ b _ _ =>
        onlyFaults_bind (onlyFaults_formatMemory hf s.low s.high b) fun _ _ _ _ =>
        onlyFaults_bind ih fun _ _ _ _ => onlyFaults_pure _
      unfold Simulator.base
      rw [Memory.Base.ofRadix_radix]
      exact onlyFaults_pure _
  exact onlyFaults_bind (hblocks segments) fun _ _ _ _ => onlyFaults_pure _

theorem faultsBut_dataSegments : FaultsBut sim.dataSegments sim.DataInverted := by
  have hpair : ∀ user kernel : Int × Int,
      FaultsBut (σ := σ) (do
        let userSegment ← segment "User data segment" user.1 user.2
        let kernelSegment ← segment "Kernel data segment" kernel.1 kernel.2
        pure [userSegment, kernelSegment]) fun _ => user.2 < user.1 ∨ kernel.2 < kernel.1 := by
    intro user kernel
    by_cases hu : user.1 ≤ user.2
    · rw [segment_of_le hu]
      by_cases hk : kernel.1 ≤ kernel.2
      · rw [segment_of_le hk]
        exact ⟨fun _ h => by omega, fun _ _ _ _ h => nomatch h⟩
      · rw [segment_of_lt (by omega)]
        exact ⟨fun w _ => ⟨_, w, rfl⟩, fun _ _ _ h => by omega⟩
    · rw [segment_of_lt (by omega)]
      exact ⟨fun w _ => ⟨_, w, rfl⟩, fun _ _ _ h => by omega⟩
  refine (faultsBut_after (onlyFaults_lift hf.dataSegment) fun user =>
    faultsBut_after (onlyFaults_lift hf.kernelDataSegment) fun kernel =>
      hpair user kernel).congr fun w => ?_
  simp only [lift_eq_ok_iff, DataInverted]
  constructor
  · rintro ⟨user, v, huser, kernel, v', hkernel, hlt⟩
    exact ⟨user, v, kernel, v', huser, hkernel, hlt⟩
  · rintro ⟨user, v, kernel, v', huser, hkernel, hlt⟩
    exact ⟨user, v, huser, kernel, v', hkernel, hlt⟩

theorem onlyFaults_stackContent (base : Memory.Base) :
    Reading.OnlyFaults (sim.stackContent base.radix) := by
  refine onlyFaults_bind ?_ fun _ segments _ _ => onlyFaults_dumpContent hf base segments
  refine onlyFaults_bind (onlyFaults_lift hf.stackSegment) fun _ bounds _ _ => ?_
  dsimp only
  -- The bounds of the stack are put in order, whatever the simulator gave.
  rw [segment_of_le (by omega)]
  exact onlyFaults_pure _

theorem onlyFaults_listingContent (lines : List String) :
    Reading.OnlyFaults (sim.listingContent lines) :=
  onlyFaults_bind (onlyFaults_lift hf.currentPc) fun _ pc _ _ =>
    onlyFaults_bind (onlyFaults_instructionText hf pc) fun _ _ _ _ => onlyFaults_pure _

/-- What the panes show is read by faults alone, but where the data segments come with bounds in
the wrong order. -/
theorem faultsBut_snapshot (settings : Settings) (lines : List String) :
    FaultsBut (sim.snapshot settings.viewOptions lines)
      (sim.ReadsInverted settings.viewOptions lines) := by
  have hregisters : Reading.OnlyFaults (sim.registersContent settings.viewOptions.hexRegisters) :=
    onlyFaults_bind (onlyFaults_lift (hf.formatRegisters _)) fun _ _ _ _ => onlyFaults_pure _
  have hdata : FaultsBut (sim.dataContent settings.viewOptions.dataRadix) sim.DataInverted :=
    faultsBut_before (faultsBut_dataSegments hf) fun segments =>
      onlyFaults_dumpContent hf settings.dataBase segments
  refine (faultsBut_after hregisters fun _ =>
    faultsBut_after (onlyFaults_listingContent hf lines) fun _ =>
      faultsBut_before hdata fun _ => ?_).congr fun w => ?_
  · refine onlyFaults_bind (onlyFaults_stackContent hf settings.stackBase) fun _ _ _ _ => ?_
    refine onlyFaults_bind (onlyFaults_lift hf.currentPc) fun _ pc _ _ => ?_
    exact onlyFaults_bind (onlyFaults_instructionText hf pc) fun _ _ _ _ => onlyFaults_pure _
  · constructor
    · rintro ⟨registers, v, hread, instructions, v', hlisting, hlt⟩
      exact ⟨registers, v, instructions, v', hread, hlisting, hlt⟩
    · rintro ⟨registers, v, instructions, v', hread, hlisting, hlt⟩
      exact ⟨registers, v, hread, instructions, v', hlisting, hlt⟩

end Simulator

namespace Simulator

variable (sim : Simulator σ)

/-- In `w` there is an instruction to step at an address, and symbols are undefined. -/
def Unresolved (w : σ) (address : Int) (symbols : String) : Prop :=
  ∃ w₁ text w₂, sim.currentPc w = .ok address w₁ ∧ address ≠ 0 ∧
    sim.undefinedSymbols w₁ = .ok text w₂ ∧ Text.strip text = symbols ∧ symbols ≠ ""

/-- A guarded step in `w` finds that the program cannot go on. -/
def Halts (w : σ) : Prop :=
  ∃ o, (sim.guardedStep w).outcome = .ok o ∧ o.status = .halted

variable {sim}

theorem guardedStep_of_unresolved {w : σ} {address : Int} {symbols : String}
    (h : sim.Unresolved w address symbols) :
    (sim.guardedStep w).outcome = .error (.undefined address symbols)
      ∧ (sim.guardedStep w).calls = [] := by
  obtain ⟨w₁, text, w₂, hpc, hne, hsym, rfl, hblank⟩ := h
  simp [guardedStep, hpc, hne, hsym, hblank]

variable (hf : sim.OnlyFaults)

include hf

theorem outcome_stepAt (address : Int) (w : σ) :
    (∃ o, (sim.stepAt address w).outcome = .ok o)
      ∨ ∃ message, (sim.stepAt address w).outcome = .error (.fault message) := by
  unfold stepAt
  dsimp only
  rcases hs : sim.step (singleStep address) w with ⟨goesOn, v⟩ | ⟨e, v⟩
  · cases goesOn with
    | true => exact .inl ⟨_, rfl⟩
    | false =>
      dsimp only
      rcases hp : sim.currentPc v with ⟨pc, u⟩ | ⟨e, u⟩
      · exact .inl ⟨_, rfl⟩
      · obtain ⟨message, rfl⟩ := hf.currentPc v e u hp
        exact .inr ⟨message, rfl⟩
  · obtain ⟨message, rfl⟩ := hf.step _ w e v hs
    exact .inl ⟨_, rfl⟩

/-- Only symbols that are undefined keep a guarded step from an outcome for good. -/
theorem outcome_guardedStep (w : σ) :
    (∃ o, (sim.guardedStep w).outcome = .ok o)
      ∨ (∃ message, (sim.guardedStep w).outcome = .error (.fault message))
      ∨ ∃ address symbols, sim.Unresolved w address symbols := by
  unfold guardedStep
  rcases hp : sim.currentPc w with ⟨address, v⟩ | ⟨e, v⟩
  · dsimp only
    split_ifs with hne
    · exact .inl ⟨_, rfl⟩
    · rcases hs : sim.undefinedSymbols v with ⟨text, u⟩ | ⟨e, u⟩
      · dsimp only
        split_ifs with hblank
        · rcases outcome_stepAt hf address u with h | h
          · exact .inl h
          · exact .inr (.inl h)
        · exact .inr (.inr ⟨address, Text.strip text, v, text, u, hp, hne, hs, rfl,
            by simpa using hblank⟩)
      · obtain ⟨message, rfl⟩ := hf.undefinedSymbols v e u hs
        exact .inr (.inl ⟨message, rfl⟩)
  · obtain ⟨message, rfl⟩ := hf.currentPc w e v hp
    exact .inr (.inl ⟨message, rfl⟩)

end Simulator

namespace Session

variable {host : Host σ}

section Keeps

variable (host)

theorem exitMessage_refresh (s : Session σ) :
    (s.refresh host).session.board.exitMessage = s.board.exitMessage := by
  rcases refresh_cases host s with ⟨snapshot, w, -, h⟩ | ⟨e, w, -, h⟩ <;> rw [h]
  rfl

theorem exitMessage_advance {s : Session σ} (h : ¬ host.simulator.Halts s.world) :
    (s.advance host).session.board.exitMessage = s.board.exitMessage := by
  rcases advance_cases host s with ⟨o, ho, ha⟩ | ⟨e, -, ha⟩ <;> rw [ha]
  · rw [exitMessage_takeOutcome, if_neg fun hs => h ⟨o, ho, hs⟩, board_reported]
  · rw [board_reported]

/-- A key leaves the options as they are, and the last words unless the program halts. -/
theorem handleKey_keeps (s : Session σ) (key : String) :
    (s.handleKey host key).session.board.options = s.board.options
      ∧ (¬ (s.Steps key ∧ host.simulator.Halts s.world) →
        (s.handleKey host key).session.board.exitMessage = s.board.exitMessage) := by
  by_cases hk : s.Steps key
  · have hsettle := idle_settle host (s.step host)
    obtain ⟨hoptions, -⟩ := refresh_keeps host (s.advance host).session
    have hoptions' := (advance_keeps host s).2.2.1
    have hwords := exitMessage_refresh host (s.advance host).session
    have hadvance : ¬ (s.Steps key ∧ host.simulator.Halts s.world) →
        (s.advance host).session.board.exitMessage = s.board.exitMessage :=
      fun h => exitMessage_advance host fun hh => h ⟨hk, hh⟩
    rw [handleKey_of_steps host hk, hsettle.options, hsettle.exitMessage]
    rcases step_cases host s with ⟨o, -, -, h⟩ | ⟨o, -, -, h⟩ | ⟨e, -, h⟩ <;> rw [h]
    · exact ⟨hoptions.trans hoptions', fun hh => hwords.trans (hadvance hh)⟩
    · exact ⟨hoptions', hadvance⟩
    · exact ⟨hoptions', hadvance⟩
  · have hidle := idle_handleKey host hk
    exact ⟨hidle.options, fun _ => hidle.exitMessage⟩

theorem start_keeps (s : Session σ) :
    (s.start host).session.board.options = s.board.options
      ∧ (s.start host).session.board.exitMessage = s.board.exitMessage
      ∧ (s.start host).session.calls = s.calls := by
  have hload : ∀ s : Session σ, (s.load host).session.board.options = s.board.options
      ∧ (s.load host).session.board.exitMessage = s.board.exitMessage
      ∧ (s.load host).session.calls = s.calls := by
    intro s
    obtain ⟨-, hoptions, -, hcalls⟩ := readListing_keeps host s
    have hwords : (s.readListing host).session.board.exitMessage = s.board.exitMessage := by
      unfold readListing pull
      rcases host.simulator.currentListing s.world with ⟨lines, w⟩ | ⟨e, w⟩ <;> rfl
    rcases load_cases host s with ⟨e, -, h⟩ | ⟨-, h⟩ <;> rw [h]
    · exact ⟨hoptions, hwords, hcalls⟩
    · obtain ⟨hoptions', -, -, -, hcalls'⟩ := refresh_keeps host (s.readListing host).session
      exact ⟨hoptions'.trans hoptions, (exitMessage_refresh host _).trans hwords,
        hcalls'.trans hcalls⟩
  obtain ⟨hoptions, hwords, hcalls⟩ := hload { s with board := s.board.resetStreams }
  have hsettle := idle_settle host (goingOn (load host { s with board := s.board.resetStreams }))
  exact ⟨hsettle.options.trans hoptions, hsettle.exitMessage.trans hwords,
    hsettle.calls.trans hcalls⟩

end Keeps

theorem handleKey_of_quit (s : Session σ) {key : String} (h : Action.ofKey key = .quit) :
    (s.handleKey host key).result = .ok false := by
  unfold handleKey
  rw [h]
  rcases s.board.overlay with _ | text <;> rfl

theorem step_of_error {s : Session σ} {e : Failure}
    (h : (host.simulator.guardedStep s.world).outcome = .error e) :
    s.step host = ⟨.error e, s.reported host⟩ := by
  unfold step
  rcases advance_cases host s with ⟨o, ho, -⟩ | ⟨e', he, ha⟩
  · rw [h] at ho
    cases ho
  · rw [h] at he
    cases he
    rw [ha]

theorem step_of_halted {s : Session σ} {o : StepOutcome}
    (h : (host.simulator.guardedStep s.world).outcome = .ok o) (hs : o.status = .halted) :
    s.step host = ⟨.ok false, (s.reported host).takeOutcome host o⟩ := by
  unfold step
  rcases advance_cases host s with ⟨o', ho, ha⟩ | ⟨e, he, -⟩
  · rw [h] at ho
    cases ho
    rw [ha]
    simp only [StepOutcome.continuable, hs, bne_self_eq_false, Bool.false_eq_true, if_false]
  · rw [h] at he
    cases he

/-- A step key that finds symbols undefined is stopped by them and makes no step. -/
theorem handleKey_of_unresolved {s : Session σ} {key : String} {address : Int} {symbols : String}
    (hk : s.Steps key) (hu : host.simulator.Unresolved s.world address symbols) :
    (s.handleKey host key).result = .error (.undefined address symbols)
      ∧ (s.handleKey host key).session.calls = s.calls := by
  obtain ⟨hout, hcalls⟩ := Simulator.guardedStep_of_unresolved hu
  rw [handleKey_of_steps host hk, step_of_error hout]
  refine ⟨rfl, (calls_reported host s).trans ?_⟩
  rw [hcalls, List.append_nil]

/-- A step key after which the program cannot go on ends the session. -/
theorem handleKey_of_halts {s : Session σ} {key : String} (hk : s.Steps key)
    (hh : host.simulator.Halts s.world) : (s.handleKey host key).result = .ok false := by
  obtain ⟨o, ho, hs⟩ := hh
  rw [handleKey_of_steps host hk, step_of_halted ho hs]
  rfl

section Inverted

variable (host) (s : Session σ)

/-- Showing the simulator's state meets data segments with bounds in the wrong order. -/
def RefreshInverts : Prop :=
  host.simulator.ReadsInverted s.board.options s.board.listing s.world

/-- Beginning a session meets such bounds, once the listing is read. -/
def StartInverts : Prop :=
  let t := readListing host { s with board := s.board.resetStreams }
  t.result = .ok () ∧ t.session.RefreshInverts host

/-- A step key meets such bounds, after a step from which the program goes on. -/
def StepInverts : Prop :=
  ∃ o, (s.advance host).result = .ok o ∧ o.status ≠ .halted
    ∧ (s.advance host).session.RefreshInverts host

variable {host}

theorem not_refreshInverts (ho : host.simulator.Ordered) : ¬ s.RefreshInverts host :=
  Simulator.not_readsInverted ho _ _ _

theorem not_startInverts (ho : host.simulator.Ordered) : ¬ s.StartInverts host :=
  fun h => not_refreshInverts _ ho h.2

theorem not_stepInverts (ho : host.simulator.Ordered) : ¬ s.StepInverts host :=
  fun ⟨_, _, _, h⟩ => not_refreshInverts _ ho h

end Inverted

section Settings

variable {settings : Settings} (hf : host.simulator.OnlyFaults) {s : Session σ}
  (hoptions : s.board.options = settings.viewOptions)

include hf hoptions

theorem refresh_of_inverted (h : s.RefreshInverts host) :
    ∃ e, (s.refresh host).result = .error (.inverted e) := by
  unfold RefreshInverts at h
  rw [hoptions] at h
  obtain ⟨e, w, hw⟩ := (Simulator.faultsBut_snapshot hf settings _).inverted _ h
  refine ⟨e, ?_⟩
  unfold refresh pull
  rw [hoptions, hw]

theorem refresh_result (h : ¬ s.RefreshInverts host) : (s.refresh host).result = .ok ()
    ∨ ∃ message, (s.refresh host).result = .error (.fault message) := by
  unfold RefreshInverts at h
  rw [hoptions] at h
  rcases refresh_cases host s with ⟨snapshot, w, -, hr⟩ | ⟨e, w, hs, hr⟩ <;> rw [hr]
  · exact .inl rfl
  · rw [hoptions] at hs
    obtain ⟨message, rfl⟩ := (Simulator.faultsBut_snapshot hf settings _).fault _ _ _ h hs
    exact .inr ⟨message, rfl⟩

theorem start_of_inverted (h : s.StartInverts host) :
    ∃ e, (s.start host).result = .error (.inverted e) := by
  obtain ⟨hlisting, hinverts⟩ := h
  have hkept := (readListing_keeps host { s with board := s.board.resetStreams }).2.1
  obtain ⟨e, he⟩ := refresh_of_inverted hf (hkept.trans hoptions) hinverts
  have hload : (load host { s with board := s.board.resetStreams }).result
      = .error (.inverted e) := by
    rcases load_cases host { s with board := s.board.resetStreams } with
      ⟨e', he', -⟩ | ⟨-, hl⟩
    · cases hlisting.symm.trans he'
    · rw [hl, he]
  refine ⟨e, ?_⟩
  unfold start settle goingOn
  rw [hload]
  rfl

/-- A session shows the logs as it begins, unless it meets bounds in the wrong order. -/
theorem start_shows (h : ¬ s.StartInverts host) :
    ∃ r : Session σ, s.start host = goingOn (r.refreshLogs host) := by
  have hload : (load host { s with board := s.board.resetStreams }).result = .ok ()
      ∨ ∃ message, (load host { s with board := s.board.resetStreams }).result
        = .error (.fault message) := by
    rcases load_cases host { s with board := s.board.resetStreams } with ⟨e, he, hl⟩ | ⟨hok, hl⟩ <;>
      rw [hl]
    · unfold readListing pull at he ⊢
      dsimp only at he ⊢
      rcases hc : host.simulator.currentListing s.world with ⟨lines, w⟩ | ⟨e', w⟩
      · exact .inl rfl
      · obtain ⟨message, rfl⟩ := Simulator.onlyFaults_currentListing hf _ _ _ hc
        exact .inr ⟨message, rfl⟩
    · have hkept := (readListing_keeps host { s with board := s.board.resetStreams }).2.1
      exact refresh_result hf (hkept.trans hoptions) fun hinverts => h ⟨hok, hinverts⟩
  have hstarting : ∃ r, s.starting host = some r := by
    unfold starting settling goingOn
    rcases hload with h | ⟨message, h⟩ <;> rw [h] <;> exact ⟨_, rfl⟩
  obtain ⟨r, hr⟩ := hstarting
  exact ⟨r, (settle_of_settling host hr).1⟩

theorem handleKey_of_inverted {key : String} (hk : s.Steps key) (h : s.StepInverts host) :
    ∃ e, (s.handleKey host key).result = .error (.inverted e) := by
  obtain ⟨o, ho, hstatus, hinverts⟩ := h
  have hkept := (advance_keeps host s).2.2.1.trans hoptions
  obtain ⟨e, he⟩ := refresh_of_inverted hf hkept hinverts
  have hstep : (s.step host).result = .error (.inverted e) := by
    rcases step_cases host s with ⟨-, -, -, hs⟩ | ⟨o', ho', hhalted, -⟩ | ⟨e', he', -⟩
    · rw [hs]
      unfold goingOn
      rw [he]
      rfl
    · cases ho.symm.trans ho'
      exact absurd hhalted hstatus
    · cases ho.symm.trans he'
  refine ⟨e, ?_⟩
  rw [handleKey_of_steps host hk]
  unfold settle
  rw [hstep]
  exact hstep

theorem step_result (h : ¬ s.StepInverts host) : (s.step host).result = .ok true
    ∨ ((s.step host).result = .ok false ∧ host.simulator.Halts s.world)
    ∨ (∃ message, (s.step host).result = .error (.fault message))
    ∨ ∃ address symbols, host.simulator.Unresolved s.world address symbols := by
  rcases step_cases host s with ⟨o, ha, hs, hr⟩ | ⟨o, ha, hs, hr⟩ | ⟨e, he, hr⟩ <;> rw [hr]
  · have hkept : (s.advance host).session.board.options = settings.viewOptions :=
      (advance_keeps host s).2.2.1.trans hoptions
    unfold goingOn
    rcases refresh_result hf hkept fun hinverts => h ⟨o, ha, hs, hinverts⟩ with
      hr | ⟨message, hr⟩ <;> rw [hr]
    · exact .inl rfl
    · exact .inr (.inr (.inl ⟨message, rfl⟩))
  · exact .inr (.inl ⟨rfl, o, (advance_ok host ha).1, hs⟩)
  · rcases advance_cases host s with ⟨o, -, ha⟩ | ⟨e', hg, ha⟩
    · rw [ha] at he
      cases he
    · rw [ha] at he
      cases he
      rcases Simulator.outcome_guardedStep hf s.world with ⟨o, ho'⟩ | ⟨message, hm⟩ | hu
      · rw [hg] at ho'
        cases ho'
      · rw [hg] at hm
        cases hm
        exact .inr (.inr (.inl ⟨message, rfl⟩))
      · exact .inr (.inr (.inr hu))

/-- What a key comes to with log files that can be asked about, if it meets no bounds in the wrong
order: the session goes on, or it ends by a quit key, by a program that cannot go on, or by symbols
that are undefined. -/
theorem handleKey_cases (hread : ∀ id w, host.logFile id w ≠ .error .impossible) {key : String}
    (h : s.Steps key → ¬ s.StepInverts host) :
    (s.handleKey host key).result = .ok true
      ∨ ((s.handleKey host key).result = .ok false
        ∧ (Action.ofKey key = .quit ∨ s.Steps key ∧ host.simulator.Halts s.world))
      ∨ ∃ address symbols, s.Steps key ∧ host.simulator.Unresolved s.world address symbols := by
  have hshown : ∀ s : Session σ, (goingOn (s.refreshLogs host)).result = .ok true := by
    intro s
    unfold goingOn
    rw [refreshLogs_of_readable host hread]
    rfl
  by_cases hquit : Action.ofKey key = .quit
  · exact .inr (.inl ⟨handleKey_of_quit s hquit, .inl hquit⟩)
  rcases hov : s.board.overlay with _ | text
  · by_cases hstep : Action.ofKey key = .step
    · have hk : s.Steps key := ⟨hov, hstep⟩
      rw [handleKey_of_steps host hk]
      rcases step_result hf hoptions (h hk) with
        hr | ⟨hr, hhalt⟩ | ⟨message, hr⟩ | ⟨address, symbols, hu⟩
      · refine .inl ?_
        unfold settle
        rw [hr]
        exact hshown _
      · refine .inr (.inl ⟨?_, .inr ⟨hk, hhalt⟩⟩)
        unfold settle
        rw [hr]
        exact hr
      · refine .inl ?_
        unfold settle
        rw [hr]
        exact hshown _
      · exact .inr (.inr ⟨address, symbols, hk, hu⟩)
    · rw [handleKey_of_ne_quit host hov hquit]
      unfold acting
      rw [if_neg hstep]
      exact .inl (hshown _)
  · unfold handleKey
    rw [hov]
    exact .inl (by simpa using hquit)

end Settings

end Session

end Stepboard
