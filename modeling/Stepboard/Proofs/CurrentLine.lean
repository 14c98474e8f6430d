import Stepboard.Proofs.Snapshots
/-!
# The current line of the listing

The listing is read when a session begins and stays what it was (`listing_over_events`). A refresh
looks the current instruction up in it: the first line that shows the instruction is marked and
followed (`locate_eq_some_iff`), and without such a line nothing is marked and the pane stays where
it is (`instructions_showSnapshot`).
-/

namespace Stepboard

namespace Listing

/-- What is compared of a listed line or an instruction. -/
def bare (text : String) : String :=
  Text.strip (Text.listingLine text)

/-- A listed line shows an instruction that is not blank. -/
def Shows (lines : List String) (instruction : String) (i : Nat) : Prop :=
  bare instruction ≠ "" ∧ (lines.map bare)[i]? = some (bare instruction)

/-- A listed line is the first to show an instruction. -/
def FirstShows (lines : List String) (instruction : String) (i : Nat) : Prop :=
  Shows lines instruction i ∧ ∀ j < i, ¬ Shows lines instruction j

section Locate

variable {lines : List String} {instruction : String}

theorem lt_of_shows {i : Nat} (h : Shows lines instruction i) : i < lines.length := by
  have hi := (List.getElem?_eq_some_iff.mp h.2).1
  rwa [List.length_map] at hi

theorem locate_eq (h : bare instruction ≠ "") :
    locate (lines.map Text.listingLine) instruction
      = (lines.map bare).findIdx? (· == bare instruction) := by
  have hwanted : (Text.strip (Text.listingLine instruction)).isEmpty = false := by
    simpa [bare] using h
  rw [locate, hwanted, List.findIdx?_map, List.findIdx?_map]
  rfl

theorem locate_eq_some_iff {i : Nat} :
    locate (lines.map Text.listingLine) instruction = some i ↔ FirstShows lines instruction i := by
  by_cases h : bare instruction = ""
  · have hnone : locate (lines.map Text.listingLine) instruction = none := by
      unfold bare at h
      simp [locate, h]
    simp [hnone, FirstShows, Shows, h]
  · rw [locate_eq h, List.findIdx?_eq_some_iff_getElem]
    simp only [FirstShows, Shows, h, ne_eq, not_false_eq_true, true_and,
      List.getElem?_eq_some_iff, beq_iff_eq]
    constructor
    · rintro ⟨hi, hshows, hfirst⟩
      exact ⟨⟨hi, hshows⟩, fun j hj ⟨_, hshows'⟩ => hfirst j hj hshows'⟩
    · rintro ⟨⟨hi, hshows⟩, hfirst⟩
      exact ⟨hi, hshows, fun j hj hshows' => hfirst j hj ⟨Nat.lt_trans hj hi, hshows'⟩⟩

theorem marked_of_firstShows {pc : Int} {i : Nat} (hpc : pc ≠ 0)
    (h : FirstShows lines instruction i) :
    (if pc = 0 then none else locate (lines.map Text.listingLine) instruction) = some i := by
  rw [if_neg hpc]
  exact locate_eq_some_iff.mpr h

theorem marked_eq_none {pc : Int} (h : pc = 0 ∨ ∀ i, ¬ Shows lines instruction i) :
    (if pc = 0 then none else locate (lines.map Text.listingLine) instruction) = none := by
  split_ifs with hpc
  · rfl
  · rcases hlocate : locate (lines.map Text.listingLine) instruction with _ | i
    · rfl
    · exact absurd (locate_eq_some_iff.mp hlocate).1 (h.resolve_left hpc i)

/-- Among lines that all look different, a line that reads as the instruction is the first one. -/
theorem firstShows_of_nodup {k : Nat} (h : bare instruction ≠ "") (hnodup : (lines.map bare).Nodup)
    (hk : lines[k]? = some instruction) : FirstShows lines instruction k := by
  have hshows : (lines.map bare)[k]? = some (bare instruction) := by simp [hk]
  have hlt := (List.getElem?_eq_some_iff.mp hshows).1
  refine ⟨⟨h, hshows⟩, fun j hj hshows' => ?_⟩
  have hjk : j = k :=
    (List.getElem?_inj (Nat.lt_trans hj hlt) hnodup).mp (hshows'.2.trans hshows.symm)
  exact absurd hjk (Nat.ne_of_lt hj)

end Locate

end Listing

namespace Simulator

variable {σ : Type} (sim : Simulator σ)

/-- The lines told from the current instruction up to the end of the program, as they were told;
there are none if the simulator fails. -/
def listedLines (w : σ) : List String :=
  match sim.currentPc w with
  | .ok pc w' =>
    match sim.disassemble pc w' with
    | .ok told _ => told.takeWhile fun line => !Listing.holds Listing.sentinel line.toList
    | .error _ _ => []
  | .error _ _ => []

theorem currentListing_cases (w : σ) :
    (∃ w', sim.currentListing w = .ok ((sim.listedLines w).map Text.listingLine) w')
      ∨ ∃ e w', sim.currentListing w = .error e w' ∧ sim.listedLines w = [] := by
  rcases hpc : sim.currentPc w with ⟨pc, v⟩ | ⟨e, v⟩
  · have hlisting : sim.currentListing w = sim.listing pc v :=
      Reading.bind_of_ok (Reading.lift_eq_ok_iff.mpr hpc) _
    rw [hlisting]
    rcases htold : sim.disassemble pc v with ⟨told, v'⟩ | ⟨e, v'⟩
    · refine .inl ⟨v', ?_⟩
      simp only [listedLines, hpc, htold]
      exact Reading.bind_of_ok (Reading.lift_eq_ok_iff.mpr htold) _
    · refine .inr ⟨_, v', Reading.bind_of_error (Reading.lift_of_error htold) _, ?_⟩
      simp only [listedLines, hpc, htold]
  · refine .inr ⟨_, v, Reading.bind_of_error (Reading.lift_of_error hpc) _, ?_⟩
    simp only [listedLines, hpc]

/-- The program counter and the current instruction as a refresh reads them, after the registers. -/
def ReadsCurrent (options : ViewOptions) (w : σ) (pc : Int) (text : String) : Prop :=
  ∃ registers w₁ w₂, sim.formatRegisters options.hexRegisters w = .ok registers w₁
    ∧ sim.currentPc w₁ = .ok pc w₂ ∧ (pc ≠ 0 → ∃ w₃, sim.instructionAt pc w₂ = .ok text w₃)

variable {sim}

theorem ReadsCurrent.of_steady {answers : σ → Answers} (steady : sim.Steady answers)
    {options : ViewOptions} {w : σ} {pc : Int} {text : String}
    (h : sim.ReadsCurrent options w pc text) :
    pc = (answers w).pc ∧ (pc ≠ 0 → text = (answers w).instructionAt pc) := by
  obtain ⟨registers, w₁, w₂, hregisters, hpc, htext⟩ := h
  obtain ⟨-, hw₁⟩ := steady.formatRegisters _ w registers w₁ hregisters
  obtain ⟨hpc, hw₂⟩ := steady.currentPc w₁ pc w₂ hpc
  rw [hw₁] at hpc hw₂
  refine ⟨hpc, fun hne => ?_⟩
  obtain ⟨w₃, htext⟩ := htext hne
  rw [(steady.instructionAt pc w₂ text w₃ htext).1, hw₂]

/-- A snapshot marks the current instruction in the listing. -/
theorem instructions_snapshot {options : ViewOptions} {lines : List String} {s : Snapshot}
    {w w' : σ} (h : sim.snapshot options lines w = .ok s w') :
    ∃ pc text, sim.ReadsCurrent options w pc text
      ∧ s.instructions
        = Listing.content lines (if pc = 0 then none else Listing.locate lines text) := by
  obtain ⟨registers, w₁, hregisters, h⟩ := Reading.bind_ok h
  obtain ⟨instructions, v, hinstructions, h⟩ := Reading.bind_ok h
  obtain ⟨data, v', -, h⟩ := Reading.bind_ok h
  obtain ⟨stack, v'', -, h⟩ := Reading.bind_ok h
  obtain ⟨pc', v₁, -, h⟩ := Reading.bind_ok h
  obtain ⟨instruction, v₂, -, h⟩ := Reading.bind_ok h
  cases h
  obtain ⟨text, u, htext, hregisters⟩ := Reading.bind_ok hregisters
  cases hregisters
  obtain ⟨pc, w₂, hpc, hinstructions⟩ := Reading.bind_ok hinstructions
  obtain ⟨current, w₃, hcurrent, hinstructions⟩ := Reading.bind_ok hinstructions
  cases hinstructions
  refine ⟨pc, current, ⟨text, w₁, w₂, Reading.lift_eq_ok_iff.mp htext,
    Reading.lift_eq_ok_iff.mp hpc, fun hne => ⟨v, ?_⟩⟩, rfl⟩
  rw [instructionText, if_neg hne] at hcurrent
  exact Reading.lift_eq_ok_iff.mp hcurrent

end Simulator

namespace Board

theorem panes_showContent (b : Board) (id : PaneId) (c : Content) :
    (b.showContent id c).panes id =
      let p := ((b.panes id).render c.lines (b.isFocused id) c.styles).1
      c.focusLine.elim p fun line => p.follow line := by
  simp only [showContent, modifyPane, if_pos]
  cases c.focusLine <;> rfl

/-- The listing is shown as it is, and the line marked in it is brought into view. -/
theorem instructions_showSnapshot (b : Board) {s : Snapshot} {lines : List String}
    {marked : Option Nat} (h : s.instructions = Listing.content lines marked) :
    let p := b.panes .instructions
    let q := (b.showSnapshot s).panes .instructions
    q.paneText = (lines, (marked.map fun i => ((i : Int), "reverse")).toList)
      ∧ (marked = none → q.row = p.row)
      ∧ ∀ i : Nat, marked = some i → i < lines.length → 0 < p.innerHeight → q.InView i := by
  intro p q
  have hface := congrArg Face.instructions (b.face_showSnapshot s)
  rw [Snapshot.face, h] at hface
  have hq : q = _ :=
    (b.showContent .registers s.registers).panes_showContent .instructions s.instructions
  rw [h] at hq
  refine ⟨hface, ?_, ?_⟩
  · rintro rfl
    rw [hq]
    rfl
  · rintro i rfl hi hheight
    rw [hq]
    exact Pane.inView_follow rfl hi hheight

end Board

namespace Session

variable {σ : Type} (host : Host σ)

section Listing

variable (s : Session σ)

theorem listing_readListing (h : s.board.listing = []) : (s.readListing host).session.board.listing
    = (host.simulator.listedLines s.world).map Text.listingLine := by
  unfold readListing pull
  rcases host.simulator.currentListing_cases s.world with ⟨w, hread⟩ | ⟨e, w, hread, hnone⟩ <;>
    rw [hread]
  rw [hnone]
  exact h

theorem listing_load : (s.load host).session.board.listing
    = (s.readListing host).session.board.listing := by
  rcases load_cases host s with ⟨e, -, h⟩ | ⟨-, h⟩ <;> rw [h]
  exact (refresh_keeps host _).2.1

theorem listing_start (h : s.board.listing = []) : (s.start host).session.board.listing
    = (host.simulator.listedLines s.world).map Text.listingLine := by
  rw [start, (idle_settle host _).listing]
  exact (listing_load host _).trans (listing_readListing host _ h)

theorem listing_step : (s.step host).session.board.listing = s.board.listing := by
  obtain ⟨-, -, -, hadvance⟩ := advance_keeps host s
  rcases step_cases host s with ⟨o, -, -, h⟩ | ⟨o, -, -, h⟩ | ⟨e, -, h⟩ <;> rw [h]
  · exact (refresh_keeps host _).2.1.trans hadvance
  · exact hadvance
  · exact hadvance

theorem listing_afterEvent (event : Event σ) :
    (s.afterEvent host event).board.listing = s.board.listing := by
  cases event with
  | key name =>
    by_cases hk : s.Steps name
    · rw [afterEvent, handleKey_of_steps host hk, (idle_settle host _).listing, listing_step]
    · exact (idle_handleKey host hk).listing
  | draw => exact (idle_compose host s).listing
  | outside change => rfl

end Listing

theorem listing_over_events : ∀ (events : List (Event σ)) (s : Session σ),
    (events.foldl (afterEvent host) s).board.listing = s.board.listing
  | [], _ => rfl
  | event :: rest, s =>
    (listing_over_events rest (s.afterEvent host event)).trans (listing_afterEvent host s event)

/-- The sessions of a run that have their panes refreshed: one that has read its listing, and any
that has stepped. -/
inductive RefreshedIn (s₀ : Session σ) : Session σ → Prop
  | loaded : RefreshedIn s₀ (readListing host { s₀ with board := s₀.board.resetStreams }).session
  | stepped (events : List (Event σ)) : RefreshedIn s₀ ((s₀.after host events).advance host).session

theorem listing_of_refreshedIn {s₀ s : Session σ} (h₀ : s₀.board.listing = [])
    (h : s₀.RefreshedIn host s) :
    s.board.listing = (host.simulator.listedLines s₀.world).map Text.listingLine := by
  cases h with
  | loaded => exact listing_readListing host { s₀ with board := s₀.board.resetStreams } h₀
  | stepped events =>
    rw [(advance_keeps host _).2.2.2, after, listing_over_events]
    exact listing_start host s₀ h₀

/-- Every session that is refreshed has the lines that the simulator told at the start. Once its
refresh completes, wherever the pane was scrolled to, the first line that shows the current
instruction is marked and in view; if there is none, no line is marked and the pane stays where it
was. Among lines that all look different, the marked line is the one that was told as the
instruction is told now. -/
theorem refresh_marks_current_line (host : Host σ) (program : String) (width height : Int)
    (options : ViewOptions) (world : σ) :
    let lines := host.simulator.listedLines world
    (∀ s, (fresh program width height options world).RefreshedIn host s →
        s.board.listing = lines.map Text.listingLine)
      ∧ ∀ s : Session σ, s.board.listing = lines.map Text.listingLine →
        (s.refresh host).result = .ok () →
        ∃ pc text, host.simulator.ReadsCurrent s.board.options s.world pc text
          ∧ let p := s.board.panes .instructions
            let q := (s.refresh host).session.board.panes .instructions
            q.content = lines.map Text.listingLine
              ∧ (∀ i : Nat, pc ≠ 0 → Listing.FirstShows lines text i →
                q.styles = [((i : Int), "reverse")] ∧ (0 < p.innerHeight → q.InView i))
              ∧ ((pc = 0 ∨ ∀ i, ¬ Listing.Shows lines text i) → q.styles = [] ∧ q.row = p.row)
              ∧ ∀ k : Nat, pc ≠ 0 → Listing.bare text ≠ "" → (lines.map Listing.bare).Nodup →
                lines[k]? = some text → q.styles = [((k : Int), "reverse")] := by
  intro lines
  refine ⟨fun s hs => listing_of_refreshedIn host rfl hs, fun s hlisting hok => ?_⟩
  rcases refresh_cases host s with ⟨snapshot, w, hread, hr⟩ | ⟨e, w, -, hr⟩
  · obtain ⟨pc, text, hcurrent, hmarks⟩ := Simulator.instructions_snapshot hread
    rw [hlisting] at hmarks
    obtain ⟨htext, hstays, hview⟩ := s.board.instructions_showSnapshot hmarks
    obtain ⟨hcontent, hstyles⟩ := Prod.mk.inj htext
    rw [hr]
    refine ⟨pc, text, hcurrent, hcontent, fun i hpc hi => ⟨?_, fun hheight => ?_⟩, fun hnone => ?_,
      fun k hpc hne hnodup hk => ?_⟩
    · rw [Listing.marked_of_firstShows hpc hi] at hstyles
      exact hstyles
    · refine hview i (Listing.marked_of_firstShows hpc hi) ?_ hheight
      rw [List.length_map]
      exact Listing.lt_of_shows hi.1
    · have hmarked := Listing.marked_eq_none hnone
      rw [hmarked] at hstyles
      exact ⟨hstyles, hstays hmarked⟩
    · have hfirst := Listing.firstShows_of_nodup hne hnodup hk
      rw [Listing.marked_of_firstShows hpc hfirst] at hstyles
      exact hstyles
  · rw [hr] at hok
    cases hok

end Session

namespace Scripted

/-- A program of three instructions, two of which read the same but for a tab. -/
def repeating : Bench where
  machine := { program := ["nop", "\tnop\n", "jr $31"], data := (0, 0), kernel := (0, 0) }
  files := { workingPlace := [] }
  outputLog := Path.ofString "out.log"
  messageLog := Path.ofString "msg.log"

def repeatingHost : Host Bench :=
  host repeating.outputLog repeating.messageLog

/-- A session on it that has been scrolled past the first two lines and then stepped. -/
def repeatingSession : Session Bench :=
  (((Session.fresh "p.s" 60 22 {} repeating).after repeatingHost [.key "j", .key "j"]).advance
    repeatingHost).session

/-- The second instruction is current, but the first one is marked, and scrolled back to. -/
theorem first_of_repeating_marked :
    let q := (repeatingSession.refresh repeatingHost).session.board.panes .instructions
    (repeatingSession.board.panes .instructions).row = 2
      ∧ repeatingSession.world.machine.pc = 0x400004
      ∧ q.styles = [(0, "reverse")] ∧ q.InView 0 := by
  intro q
  obtain ⟨hlisted, hmarks⟩ :=
    Session.refresh_marks_current_line repeatingHost "p.s" 60 22 {} repeating
  have hlisting := hlisted repeatingSession (.stepped [.key "j", .key "j"])
  obtain ⟨pc, text, hread, -, hfirst, -⟩ :=
    hmarks repeatingSession hlisting (by decide +kernel)
  obtain ⟨rfl, htext⟩ := hread.of_steady steady_simulator
  have hpc : repeatingSession.world.machine.pc = 0x400004 := by decide +kernel
  have hne : repeatingSession.world.answers.pc ≠ 0 := by simp [Bench.answers, hpc]
  have hshows : Listing.FirstShows (repeatingHost.simulator.listedLines repeating) text 0 := by
    rw [htext hne]
    exact ⟨⟨by decide +kernel, by decide +kernel⟩, fun j hj => absurd hj (Nat.not_lt_zero j)⟩
  obtain ⟨hstyles, hview⟩ := hfirst 0 hne hshows
  exact ⟨by decide +kernel, hpc, hstyles, hview (by decide +kernel)⟩

end Scripted

end Stepboard
