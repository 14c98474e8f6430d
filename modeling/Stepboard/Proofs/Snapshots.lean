import Mathlib.Data.List.Induction
import Stepboard.Proofs.Related
import Stepboard.Proofs.Steps
import Stepboard.Simulator.Scripted
/-!
# The panes show one state

If all that a simulator answers depends on a state that only steps change, then in every session the
four panes, the program counter and the current instruction are what one such state looks like: the
one that the last completed refresh saw.
-/

namespace Stepboard

/-- All that a simulator answers in one state. -/
structure Answers where
  pc : Int
  registers : Bool → String
  disassembly : Int → List String
  instructionAt : Int → String
  word : Int → Int
  byte : Int → Int
  undefinedSymbols : String
  dataSegment : Int × Int
  stackSegment : Int × Int
  kernelDataSegment : Int × Int

/-- The simulator that gives the same answers for ever. -/
def Answers.still : Simulator Answers where
  currentPc a := .ok a.pc a
  step _ a := .ok true a
  formatRegisters hex a := .ok (a.registers hex) a
  disassemble start a := .ok (a.disassembly start) a
  instructionAt address a := .ok (a.instructionAt address) a
  readWord address a := .ok (a.word address) a
  readByte address a := .ok (a.byte address) a
  undefinedSymbols a := .ok a.undefinedSymbols a
  dataSegment a := .ok a.dataSegment a
  stackSegment a := .ok a.stackSegment a
  kernelDataSegment a := .ok a.kernelDataSegment a

/-- Whenever it does not fail, a query answers what the state of the world says and leaves that
state as it is. When it fails, and how, may hang on anything. -/
def Query.Honest {σ α : Type} (q : Query σ α) (answers : σ → Answers) (value : Answers → α) :
    Prop :=
  ∀ w a w', q w = .ok a w' → a = value (answers w) ∧ answers w' = answers w

/-- A simulator whose reads are pure: their answers, where they give one, hang on a state that none
of them changes. -/
structure Simulator.Steady {σ : Type} (sim : Simulator σ) (answers : σ → Answers) : Prop where
  currentPc : sim.currentPc.Honest answers (·.pc)
  formatRegisters (hex : Bool) : (sim.formatRegisters hex).Honest answers (·.registers hex)
  disassemble (start : Int) : (sim.disassemble start).Honest answers (·.disassembly start)
  instructionAt (address : Int) :
    (sim.instructionAt address).Honest answers (·.instructionAt address)
  readWord (address : Int) : (sim.readWord address).Honest answers (·.word address)
  readByte (address : Int) : (sim.readByte address).Honest answers (·.byte address)
  undefinedSymbols : sim.undefinedSymbols.Honest answers (·.undefinedSymbols)
  dataSegment : sim.dataSegment.Honest answers (·.dataSegment)
  stackSegment : sim.stackSegment.Honest answers (·.stackSegment)
  kernelDataSegment : sim.kernelDataSegment.Honest answers (·.kernelDataSegment)

section Steady

variable {σ : Type} (answers : σ → Answers)

/-- A reading that comes to a value only if the other reads it off the one state. -/
def ReadingRel.steady : ReadingRel σ Answers where
  Rel r q := ∀ w a w', r w = .ok a w' →
    q (answers w) = .ok a (answers w) ∧ answers w' = answers w
  pure a w b w' h := by
    cases h
    exact ⟨rfl, rfl⟩
  bind {α β x y f g} hx hf w b w' h := by
    rcases hr : x w with ⟨a, w₁⟩ | ⟨e, w₁⟩ <;>
      simp only [Bind.bind, EStateM.bind, hr] at h ⊢
    · obtain ⟨hq, hw⟩ := hx w a w₁ hr
      obtain ⟨hq', hw'⟩ := hf a w₁ b w' h
      rw [hw] at hq' hw'
      simp only [hq]
      exact ⟨hq', hw'⟩
    · cases h
  throw e w b w' h := by cases h

variable {answers}

theorem steady_lift {α : Type} {q : Query σ α} {q' : Query Answers α} {value : Answers → α}
    (hq : ∀ a, q' a = .ok (value a) a) (h : q.Honest answers value) :
    (ReadingRel.steady answers).Rel q.lift q'.lift := by
  intro w a w' hr
  unfold Query.lift at hr ⊢
  rw [hq]
  rcases hw : q w with ⟨a', w₁⟩ | ⟨e, w₁⟩ <;> rw [hw] at hr <;> cases hr
  obtain ⟨rfl, hw'⟩ := h w a w' hw
  exact ⟨rfl, hw'⟩

theorem Simulator.Steady.related {sim : Simulator σ} (h : sim.Steady answers) :
    sim.Related (ReadingRel.steady answers) Answers.still where
  currentPc := steady_lift (fun _ => rfl) h.currentPc
  formatRegisters hex := steady_lift (fun _ => rfl) (h.formatRegisters hex)
  disassemble start := steady_lift (fun _ => rfl) (h.disassemble start)
  instructionAt address := steady_lift (fun _ => rfl) (h.instructionAt address)
  readWord address := steady_lift (fun _ => rfl) (h.readWord address)
  readByte address := steady_lift (fun _ => rfl) (h.readByte address)
  dataSegment := steady_lift (fun _ => rfl) h.dataSegment
  stackSegment := steady_lift (fun _ => rfl) h.stackSegment
  kernelDataSegment := steady_lift (fun _ => rfl) h.kernelDataSegment

end Steady

namespace Session

variable {σ : Type} (host : Host σ)

/-- The world that a completed refresh saw when the first state was shown. -/
def refreshedByLoad (s : Session σ) : Option σ :=
  match (s.load host).result with
  | .ok _ => some (s.readListing host).session.world
  | .error _ => none

/-- The world that a completed refresh saw when the session began. -/
def refreshedAtStart (s : Session σ) : Option σ :=
  refreshedByLoad host { s with board := s.board.resetStreams }

/-- The world that a completed refresh saw while a key was taken. -/
def refreshedByKey (s : Session σ) (key : String) : Option σ :=
  if s.Steps key then
    match (s.step host).result with
    | .ok true => some (s.advance host).session.world
    | _ => none
  else none

/-- An event, and the world that the last completed refresh saw. -/
def watchEvent (x : Session σ × Option σ) (event : Event σ) : Session σ × Option σ :=
  let seen :=
    match event with
    | .key name => x.1.refreshedByKey host name
    | .draw | .outside _ => none
  (x.1.afterEvent host event, seen.or x.2)

/-- A session begun and taken through events, and the world that the last completed refresh saw. -/
def watch (s : Session σ) (events : List (Event σ)) : Session σ × Option σ :=
  events.foldl (watchEvent host) ((s.start host).session, s.refreshedAtStart host)

theorem watch_fst (s : Session σ) (events : List (Event σ)) :
    (s.watch host events).1 = s.after host events := by
  induction events using List.reverseRecOn with
  | nil => rfl
  | append_singleton events event ih =>
    simp only [watch, after, List.foldl_append, List.foldl_cons, List.foldl_nil] at ih ⊢
    rw [← ih]
    rfl

variable (answers : σ → Answers) (options : ViewOptions) (lines : List String)

/-- What the board tells is what the state in a world looks like, and nothing without a world. -/
def Shows (face : Face) : Option σ → Prop
  | none => face = {}
  | some w => ∃ snapshot, Answers.still.snapshot options lines (answers w)
      = .ok snapshot (answers w) ∧ face = snapshot.face

/-- A session of a run with given options and listing shows the world that it was refreshed from. -/
structure Consistent (x : Session σ × Option σ) : Prop where
  options_eq : x.1.board.options = options
  listing_eq : x.1.board.listing = lines
  shows : Shows answers options lines x.1.board.face x.2

variable {host answers options lines}

/-- A completed refresh shows the world it began in. -/
theorem shows_refresh (steady : host.simulator.Steady answers) {s : Session σ}
    (h : (s.refresh host).result = .ok ()) :
    Shows answers s.board.options s.board.listing (s.refresh host).session.board.face
      (some s.world) := by
  rcases refresh_cases host s with ⟨snapshot, w, hs, hr⟩ | ⟨e, w, -, hr⟩
  · have hstill := Simulator.related_snapshot steady.related _ _ s.world snapshot w hs
    exact ⟨snapshot, hstill.1, by rw [hr]; exact s.board.face_showSnapshot snapshot⟩
  · rw [hr] at h
    cases h

/-- A step has the panes refreshed from the world that the simulator stepped to, or leaves them. -/
theorem step_refreshes (host : Host σ) (s : Session σ) :
    ((s.step host).result = .ok true ∧ ∃ o, (s.advance host).result = .ok o ∧ o.status ≠ .halted
        ∧ ((s.advance host).session.refresh host).result = .ok ()
        ∧ (s.step host).session = ((s.advance host).session.refresh host).session)
      ∨ ((s.step host).result ≠ .ok true
        ∧ (s.step host).session.board = (s.advance host).session.board) := by
  rcases step_cases host s with ⟨o, ho, hs, h⟩ | ⟨o, -, -, h⟩ | ⟨e, -, h⟩
  · rcases hr : ((s.advance host).session.refresh host).result with e | u
    · exact .inr ⟨by simp [h, goingOn, hr, Except.map], by
        rw [h]; exact board_refresh_error host hr⟩
    · exact .inl ⟨by simp [h, goingOn, hr, Except.map], o, ho, hs, rfl, by rw [h]; rfl⟩
  · exact .inr ⟨by simp [h], by rw [h]⟩
  · exact .inr ⟨by simp [h], by rw [h]⟩

theorem refreshedByKey_of_steps {s : Session σ} {key : String} (h : s.Steps key)
    (hr : (s.step host).result = .ok true) :
    s.refreshedByKey host key = some (s.advance host).session.world := by
  simp [refreshedByKey, h, hr]

theorem refreshedByKey_eq_none {s : Session σ} {key : String}
    (h : ¬ (s.Steps key ∧ (s.step host).result = .ok true)) :
    s.refreshedByKey host key = none := by
  unfold refreshedByKey
  split_ifs with hk
  · split
    · rename_i hr
      exact absurd ⟨hk, hr⟩ h
    · rfl
  · rfl

theorem consistent_idle {s s' : Session σ} {source : Option σ} (hi : Idle host s s')
    (h : Consistent answers options lines (s, source)) :
    Consistent answers options lines (s', source) where
  options_eq := hi.options.trans h.options_eq
  listing_eq := hi.listing.trans h.listing_eq
  shows := by rw [hi.face]; exact h.shows

theorem consistent_key (steady : host.simulator.Steady answers) (name : String)
    {x : Session σ × Option σ} (h : Consistent answers options lines x) :
    Consistent answers options lines (watchEvent host x (.key name)) := by
  obtain ⟨s, source⟩ := x
  simp only [watchEvent, afterEvent]
  by_cases hk : s.Steps name
  · rw [handleKey_of_steps host hk]
    refine consistent_idle (idle_settle host _) ?_
    obtain ⟨-, hf, ho, hl⟩ := advance_keeps host s
    rcases step_refreshes host s with ⟨hr, o, -, -, hok, hs⟩ | ⟨hr, hb⟩
    · rw [refreshedByKey_of_steps hk hr, hs]
      obtain ⟨hro, hrl, -⟩ := refresh_keeps host (s.advance host).session
      have hshow := shows_refresh steady hok
      rw [ho, hl, h.options_eq, h.listing_eq] at hshow
      exact ⟨hro.trans (ho.trans h.options_eq), hrl.trans (hl.trans h.listing_eq), hshow⟩
    · rw [refreshedByKey_eq_none fun hc => hr hc.2]
      refine ⟨?_, ?_, ?_⟩ <;> simp only [hb, Option.none_or]
      · exact ho.trans h.options_eq
      · exact hl.trans h.listing_eq
      · rw [hf]
        exact h.shows
  · rw [refreshedByKey_eq_none fun hc => hk hc.1]
    exact consistent_idle (idle_handleKey host hk) h

theorem consistent_watchEvent (steady : host.simulator.Steady answers) (event : Event σ)
    {x : Session σ × Option σ} (h : Consistent answers options lines x) :
    Consistent answers options lines (watchEvent host x event) := by
  cases event with
  | key name => exact consistent_key steady name h
  | draw => exact consistent_idle (idle_compose host x.1) h
  | outside change => exact ⟨h.options_eq, h.listing_eq, h.shows⟩

theorem consistent_load (steady : host.simulator.Steady answers) {s : Session σ}
    (hs : s.board.face = {}) :
    Consistent answers s.board.options (s.load host).session.board.listing
      ((s.load host).session, s.refreshedByLoad host) := by
  obtain ⟨hf, ho, -⟩ := readListing_keeps host s
  unfold refreshedByLoad
  rcases load_cases host s with ⟨e, he, h⟩ | ⟨-, h⟩ <;> rw [h]
  · refine ⟨ho, rfl, ?_⟩
    simp only [he]
    exact hf.trans hs
  · obtain ⟨hro, hrl, -⟩ := refresh_keeps host (s.readListing host).session
    refine ⟨hro.trans ho, rfl, ?_⟩
    rcases hr : ((s.readListing host).session.refresh host).result with e | u
    · simp only [board_refresh_error host hr]
      exact hf.trans hs
    · have hshow := shows_refresh steady hr
      rw [ho, ← hrl] at hshow
      exact hshow

theorem consistent_start (steady : host.simulator.Steady answers) {s : Session σ}
    (hs : s.board.face = {}) :
    Consistent answers s.board.options (s.start host).session.board.listing
      ((s.start host).session, s.refreshedAtStart host) := by
  have hi := idle_settle host (goingOn (load host { s with board := s.board.resetStreams }))
  rw [show (s.start host).session.board.listing = _ from hi.listing]
  have hload := consistent_load (s := { s with board := s.board.resetStreams }) steady hs
  exact consistent_idle hi hload

/-- A step key that has the panes refreshed from nothing leaves them as they are. -/
theorem panes_of_refreshedByKey_eq_none {s : Session σ} {key : String} (h : s.Steps key)
    (hr : s.refreshedByKey host key = none) :
    (∀ id, id ≠ .output ∧ id ≠ .log →
        (s.handleKey host key).session.board.panes id = s.board.panes id)
      ∧ (s.handleKey host key).session.board.face = s.board.face := by
  obtain ⟨hpanes, hface, -⟩ := advance_keeps host s
  rw [handleKey_of_steps host h]
  rcases step_refreshes host s with ⟨hok, -⟩ | ⟨-, hb⟩
  · rw [refreshedByKey_of_steps h hok] at hr
    cases hr
  · refine ⟨fun id hid => ?_, ?_⟩
    · rw [panes_settle host _ hid, hb, hpanes]
    · rw [(idle_settle host _).face, hb, hface]

/-- After a step key that does not end the session, no fault box is up exactly if the simulator's
step went well and the panes were refreshed; a fault box that is up says something. -/
theorem overlay_of_steps {s : Session σ} {key : String} (h : s.Steps key)
    (hgo : (s.handleKey host key).result = .ok true) :
    ((s.handleKey host key).session.board.overlay = none ↔
        (∃ address w w', host.simulator.Ready s.world address w
            ∧ host.simulator.step (singleStep address) w = .ok true w')
          ∧ (s.refreshedByKey host key).isSome)
      ∧ (s.handleKey host key).session.board.overlay ≠ some "" := by
  rw [← Simulator.guardedStep_ok_iff]
  rw [handleKey_of_steps host h] at hgo ⊢
  rcases step_refreshes host s with ⟨hok, o, ho, hne, hr, hs⟩ | ⟨hno, -⟩
  · -- The refresh completed, so a fault box can only come from the outcome of the step itself.
    rw [refreshedByKey_of_steps h hok]
    rcases overlay_settle host hgo with ⟨-, hov⟩ | ⟨message, text, he, -⟩
    · obtain ⟨hg, hb⟩ := advance_ok host ho
      have hkept := (refresh_keeps host (s.advance host).session).2.2.1
      rw [hov, hs, hkept, hb, hg]
      cases hst : o.status with
      | ok =>
        rw [overlay_takeOutcome host _ _ (by simp [hst]), board_reported, h.1]
        exact ⟨by simp [hst], by simp⟩
      | halted => exact absurd hst hne
      | fault =>
        obtain ⟨text, ht, hne'⟩ := overlay_takeOutcome_fault host (s.reported host) o hst
        rw [ht]
        exact ⟨by simp [hst], by simpa using hne'⟩
    · rw [hok] at he
      cases he
  · rw [refreshedByKey_eq_none fun hc => hno hc.2]
    rcases overlay_settle host hgo with ⟨hok, -⟩ | ⟨message, text, -, hov, hne⟩
    · exact absurd hok hno
    · rw [hov]
      exact ⟨by simp, by simpa using hne⟩

/-- In every session, what the board tells is what the simulator looked like in one state, the one
that the last completed refresh saw, with the lines listed at the start; a refresh that fails
changes nothing on the board; and after a step key that does not end the session there is no fault
box exactly if both the simulator's step and the refresh went well. -/
theorem panes_show_one_state (host : Host σ) (steady : host.simulator.Steady answers)
    (program : String) (width height : Int) (options : ViewOptions) (world : σ)
    (events : List (Event σ)) :
    let s₀ := fresh program width height options world
    let s := s₀.after host events
    (match (s₀.watch host events).2 with
      | none => s.board.face = {}
      | some w => ∃ snapshot,
          Answers.still.snapshot options (s₀.start host).session.board.listing (answers w)
              = .ok snapshot (answers w)
            ∧ s.board.face = snapshot.face)
      ∧ (∀ (r : Session σ) (e : Failure), (r.refresh host).result = .error e →
          (r.refresh host).session.board = r.board)
      ∧ ∀ key, s.Steps key →
        (s.refreshedByKey host key = none →
          (∀ id, id ≠ .output ∧ id ≠ .log →
            (s.handleKey host key).session.board.panes id = s.board.panes id)
            ∧ (s.handleKey host key).session.board.face = s.board.face)
        ∧ ((s.handleKey host key).result = .ok true →
          ((s.handleKey host key).session.board.overlay = none ↔
              (∃ address w w', host.simulator.Ready s.world address w
                  ∧ host.simulator.step (singleStep address) w = .ok true w')
                ∧ (s.refreshedByKey host key).isSome)
            ∧ (s.handleKey host key).session.board.overlay ≠ some "") := by
  intro s₀ s
  -- `Consistent` carries the run: it holds of the start, and every event keeps it.
  have hinv : Consistent answers options (s₀.start host).session.board.listing
      (s₀.watch host events) := by
    refine List.foldlRecOn events (watchEvent host) ?_ fun x hx event _ =>
      consistent_watchEvent steady event hx
    exact consistent_start (s := s₀) steady (Board.face_blank program width height options)
  refine ⟨?_, fun r e h => board_refresh_error host h, fun key hk =>
    ⟨panes_of_refreshedByKey_eq_none hk, overlay_of_steps hk⟩⟩
  have hshow := hinv.shows
  rw [watch_fst] at hshow
  rcases hw : (s₀.watch host events).2 with _ | w <;> rw [hw] at hshow <;> exact hshow

end Session

namespace Scripted

def Bench.answers (b : Bench) : Answers where
  pc := b.machine.pc
  registers := b.machine.registers
  disassembly := b.machine.listing
  instructionAt := b.machine.instruction
  word := b.machine.word
  byte := b.machine.byte
  undefinedSymbols := b.machine.undefined
  dataSegment := b.machine.data
  stackSegment := b.machine.stack
  kernelDataSegment := b.machine.kernel

theorem honest_askBy {α : Type} (method : Method) (f : Machine → α) (value : Answers → α)
    (h : ∀ b : Bench, f b.machine = value b.answers) :
    (Bench.askBy method f).Honest Bench.answers value := by
  intro w a w' hr
  unfold Bench.askBy at hr
  split at hr <;> cases hr
  exact ⟨h w, rfl⟩

theorem honest_askAt {α : Type} (faults : Machine → List (Int × String)) (address : Int)
    (f : Machine → α) (value : Answers → α) (h : ∀ b : Bench, f b.machine = value b.answers) :
    (Bench.askAt faults address f).Honest Bench.answers value := by
  intro w a w' hr
  unfold Bench.askAt at hr
  split at hr <;> cases hr
  exact ⟨h w, rfl⟩

/-- Between its steps the scripted simulator stays as it is, whichever questions it refuses. -/
theorem steady_simulator : simulator.Steady Bench.answers where
  currentPc := honest_askBy .currentPc (·.pc) _ fun _ => rfl
  formatRegisters hex := honest_askBy .formatRegisters (·.registers hex) _ fun _ => rfl
  disassemble start := honest_askBy .disassemble (·.listing start) _ fun _ => rfl
  instructionAt address :=
    honest_askBy .instructionAt (·.instruction address) _ fun _ => rfl
  readWord address := honest_askAt (·.faultWords) address (·.word address) _ fun _ => rfl
  readByte address := honest_askAt (·.faultBytes) address (·.byte address) _ fun _ => rfl
  undefinedSymbols := honest_askBy .undefinedSymbols (·.undefined) _ fun _ => rfl
  dataSegment := honest_askBy .dataSegment (·.data) _ fun _ => rfl
  stackSegment := honest_askBy .stackSegment (·.stack) _ fun _ => rfl
  kernelDataSegment := honest_askBy .kernelDataSegment (·.kernel) _ fun _ => rfl

/-- A machine whose stack cannot be told after its first step. -/
def stackless : Bench where
  machine :=
    { program := ["lw $t0, 0($t1)", "nop"]
      words := [(8, 5)]
      data := (8, 12)
      kernel := (0, 0)
      stack := (16, 16) }
  events :=
    [{ poke := [(8, 6)]
       change := fun m => { m with faults := [(.stackSegment, "lost")] } }]
  files := { workingPlace := [] }
  outputLog := Path.ofString "out.log"
  messageLog := Path.ofString "msg.log"

def stacklessHost : Host Bench :=
  host stackless.outputLog stackless.messageLog

def stacklessSession : Session Bench :=
  .fresh "p.s" 60 22 {} stackless

/-- The step succeeds and the refresh after it does not, so the panes go on showing the start. -/
theorem panes_show_start_of_stackless :
    (stacklessSession.after stacklessHost [.key "s"]).board.overlay = some "lost"
      ∧ ∃ w snapshot, (stacklessSession.watch stacklessHost [.key "s"]).2 = some w
        ∧ w.machine.word 8 = 5
        ∧ Answers.still.snapshot {} (stacklessSession.start stacklessHost).session.board.listing
            w.answers = .ok snapshot w.answers
        ∧ (stacklessSession.after stacklessHost [.key "s"]).board.face = snapshot.face := by
  refine ⟨by decide +kernel, ?_⟩
  have hshow := (Session.panes_show_one_state stacklessHost steady_simulator "p.s" 60 22 {}
    stackless [.key "s"]).1
  have hsome : ((stacklessSession.watch stacklessHost [.key "s"]).2.map (·.machine.word 8))
      = some 5 := by decide +kernel
  obtain ⟨w, hw, hword⟩ := Option.map_eq_some_iff.mp hsome
  rw [show Session.fresh "p.s" 60 22 {} stackless = stacklessSession from rfl, hw] at hshow
  obtain ⟨snapshot, hs, hf⟩ := hshow
  exact ⟨w, snapshot, hw, hword, hs, hf⟩

end Scripted

end Stepboard
