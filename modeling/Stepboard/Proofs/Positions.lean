import Stepboard.Proofs.LogPanes
import Stepboard.Proofs.Related
import Stepboard.Proofs.ScreenTitles
/-!
# Where keys have moved the board

Keys alone move the focus, scroll panes sideways, and scroll the panes of the registers and of
memory up and down: whatever else a session does leaves all of that where it was
(`Board.Unmoved`). So after an event a board is where its key moved it to (`unmoved_afterEvent`),
and at any time it is where the keys that were heard so far, no fault box being up, add up to
(`Accounted`).
-/

namespace Stepboard

/-- The panes that nothing but keys scrolls up and down. -/
def PaneId.keyScrolled : List PaneId :=
  [registers, data, stack]

theorem PaneId.index_atIndex (k : Int) : ((atIndex k).index : Int) = k % 6 := by
  have hk : k % 6 = 0 ∨ k % 6 = 1 ∨ k % 6 = 2 ∨ k % 6 = 3 ∨ k % 6 = 4 ∨ k % 6 = 5 := by omega
  unfold atIndex
  rcases hk with h | h | h | h | h | h <;> rw [h] <;> rfl

theorem Focus.shift_atIndex {f : Focus} {k : Int} (h : f.current = PaneId.atIndex k) (delta : Int) :
    (f.shift delta).current = PaneId.atIndex (k + delta) := by
  unfold Focus.shift
  rw [h, PaneId.index_atIndex]
  unfold PaneId.atIndex
  rw [Int.emod_add_emod]

theorem PaneId.all_getElem_emod (k : Int) : all[(k % 6).toNat]? = some (atIndex k) := by
  rw [← index_atIndex, Int.toNat_natCast]
  cases atIndex k <;> rfl

namespace Action

/-- By how many rows an action scrolls the pane in focus. -/
def rows : Action → Int
  | scrollUp => -1
  | scrollDown => 1
  | _ => 0

/-- By how many columns an action scrolls the listing. -/
def columns : Action → Int
  | scrollLeft => -columnStep
  | scrollRight => columnStep
  | _ => 0

/-- By how many places an action moves the focus. -/
def places : Action → Int
  | focusNext => 1
  | focusPrevious => -1
  | _ => 0

variable (action : Action)

theorem rows_eq : action.rows
    = (if action = .scrollDown then 1 else 0) - if action = .scrollUp then 1 else 0 := by
  cases action <;> rfl

theorem columns_eq : action.columns = columnStep
    * ((if action = .scrollRight then 1 else 0) - if action = .scrollLeft then 1 else 0) := by
  cases action <;> rfl

theorem places_eq : action.places
    = (if action = .focusNext then 1 else 0) - if action = .focusPrevious then 1 else 0 := by
  cases action <;> rfl

end Action

namespace Pane

/-- A pane scrolled by some rows and columns. -/
def move (p : Pane) (rows columns : Int) : Pane :=
  { p with row := p.row + rows, column := p.column + columns }

theorem move_zero (p : Pane) : p.move 0 0 = p := by
  unfold move
  rw [Int.add_zero, Int.add_zero]

theorem move_rows (p : Pane) (delta : Int) : p.move delta 0 = p.scroll delta := by
  unfold move scroll
  rw [Int.add_zero]

theorem move_columns (p : Pane) (delta : Int) : p.move 0 delta = p.scrollHorizontal delta := by
  unfold move scrollHorizontal
  rw [Int.add_zero]

end Pane

/-- A snapshot asks for a line to be kept in view in the listing alone. -/
structure Snapshot.FollowsListing (s : Snapshot) : Prop where
  registers : s.registers.focusLine = none
  data : s.data.focusLine = none
  stack : s.stack.focusLine = none

theorem Content.focusLine_ofBlocks (blocks : List (List String)) :
    (ofBlocks blocks).focusLine = none := by
  have hfold : ∀ (blocks : List (List String)) (c : Content),
      (blocks.foldl addBlock c).focusLine = c.focusLine := by
    intro blocks
    induction blocks with
    | nil => exact fun _ => rfl
    | cons block blocks ih => exact fun c => ih (c.addBlock block)
  exact hfold blocks {}

namespace Simulator

variable {σ : Type} {sim : Simulator σ} {w w' : σ}

theorem focusLine_dumpContent {segments : List Memory.Segment} {radix : Option Int} {c : Content}
    (h : sim.dumpContent segments radix w = .ok c w') : c.focusLine = none := by
  obtain ⟨blocks, v, -, h⟩ := Reading.bind_ok h
  cases h
  exact Content.focusLine_ofBlocks blocks

theorem followsListing_snapshot {options : ViewOptions} {lines : List String} {s : Snapshot}
    (h : sim.snapshot options lines w = .ok s w') : s.FollowsListing := by
  obtain ⟨registers, v, hregisters, h⟩ := Reading.bind_ok h
  obtain ⟨instructions, v', -, h⟩ := Reading.bind_ok h
  obtain ⟨data, v'', hdata, h⟩ := Reading.bind_ok h
  obtain ⟨stack, v''', hstack, h⟩ := Reading.bind_ok h
  obtain ⟨pc, w₁, -, h⟩ := Reading.bind_ok h
  obtain ⟨instruction, w₂, -, h⟩ := Reading.bind_ok h
  cases h
  obtain ⟨text, u, -, hregisters⟩ := Reading.bind_ok hregisters
  obtain ⟨segments, u', -, hdata⟩ := Reading.bind_ok hdata
  obtain ⟨segments', u'', -, hstack⟩ := Reading.bind_ok hstack
  cases hregisters
  exact ⟨rfl, focusLine_dumpContent hdata, focusLine_dumpContent hstack⟩

end Simulator

namespace Board

/-- From `b` to `b'` nothing was moved that keys alone move, and the panes are the same. -/
structure Unmoved (b b' : Board) : Prop where
  focus : b'.focus = b.focus
  held : b'.heldPanes = b.heldPanes
  label : ∀ id, (b'.panes id).label = (b.panes id).label
  column : ∀ id, (b'.panes id).column = (b.panes id).column
  row : ∀ id ∈ PaneId.keyScrolled, (b'.panes id).row = (b.panes id).row

namespace Unmoved

variable {b b' b'' : Board}

theorem refl (b : Board) : Unmoved b b :=
  ⟨rfl, rfl, fun _ => rfl, fun _ => rfl, fun _ _ => rfl⟩

theorem trans (h : Unmoved b b') (h' : Unmoved b' b'') : Unmoved b b'' :=
  ⟨h'.focus.trans h.focus, h'.held.trans h.held,
    fun id => (h'.label id).trans (h.label id), fun id => (h'.column id).trans (h.column id),
    fun id hid => (h'.row id hid).trans (h.row id hid)⟩

theorem of_panes (hp : b'.panes = b.panes) (hf : b'.focus = b.focus)
    (hr : b'.heldPanes = b.heldPanes) : Unmoved b b' :=
  ⟨hf, hr, fun _ => by rw [hp], fun _ => by rw [hp], fun _ _ => by rw [hp]⟩

/-- A change of one pane moves nothing if it keeps the label, the column and, of a pane that only
keys scroll, the row. -/
theorem modifyPane (b : Board) {id : PaneId} {f : Pane → Pane}
    (hlabel : ∀ p, (f p).label = p.label) (hcolumn : ∀ p, (f p).column = p.column)
    (hrow : id ∈ PaneId.keyScrolled → ∀ p, (f p).row = p.row) : Unmoved b (b.modifyPane id f) := by
  refine ⟨rfl, rfl, fun i => ?_, fun i => ?_, fun i hi => ?_⟩ <;> unfold Board.modifyPane <;>
    dsimp only <;> split_ifs with h
  · exact hlabel _
  · rfl
  · exact hcolumn _
  · rfl
  · exact hrow (h ▸ hi) _
  · rfl

end Unmoved

theorem follow_keeps (p : Pane) (line : Int) :
    (p.follow line).label = p.label ∧ (p.follow line).column = p.column := by
  rw [Pane.follow_row]
  exact ⟨rfl, rfl⟩

theorem unmoved_showContent (b : Board) (id : PaneId) {c : Content}
    (h : id ∈ PaneId.keyScrolled → c.focusLine = none) : Unmoved b (b.showContent id c) := by
  refine .modifyPane b ?_ ?_ fun hid => ?_
  · rcases c.focusLine with _ | line
    · exact fun _ => rfl
    · exact fun p => (follow_keeps _ line).1
  · rcases c.focusLine with _ | line
    · exact fun _ => rfl
    · exact fun p => (follow_keeps _ line).2
  · rw [h hid]
    exact fun _ => rfl

theorem unmoved_showSnapshot (b : Board) {s : Snapshot} (h : s.FollowsListing) :
    Unmoved b (b.showSnapshot s) := by
  refine (b.unmoved_showContent .registers fun _ => h.registers).trans ?_
  refine (unmoved_showContent _ .instructions (c := s.instructions)
    fun hid => absurd hid (by decide)).trans ?_
  refine (unmoved_showContent _ .data fun _ => h.data).trans ?_
  refine (unmoved_showContent _ .stack fun _ => h.stack).trans ?_
  exact .of_panes rfl rfl rfl

theorem unmoved_showLog (b : Board) (id : LogId) (file : LogFile) :
    Unmoved b (b.showLog id file) := by
  have hlabel : ((b.showLog id file).panes id.pane).label = (b.panes id.pane).label :=
    congrArg (·.pane.label) (b.log_showLog id file)
  have hcolumn : ((b.showLog id file).panes id.pane).column = (b.panes id.pane).column :=
    congrArg (·.pane.column) (b.log_showLog id file)
  have hother : ∀ i, i ≠ id.pane → (b.showLog id file).panes i = b.panes i :=
    fun i h => if_neg h
  refine ⟨rfl, rfl, fun i => ?_, fun i => ?_, fun i hi => ?_⟩
  · by_cases h : i = id.pane
    · rw [h, hlabel]
    · rw [hother i h]
  · by_cases h : i = id.pane
    · rw [h, hcolumn]
    · rw [hother i h]
  · rw [hother i]
    rintro rfl
    cases id <;> exact absurd hi (by decide)

theorem unmoved_compose (b : Board) : Unmoved b b.compose.1 := by
  unfold compose drawTitles
  rcases b.overlay with _ | text
  · exact ⟨rfl, rfl, fun _ => rfl, fun _ => rfl, fun _ _ => rfl⟩
  · exact .refl b

section Look

variable (b : Board) (action : Action)

theorem panes_look (id : PaneId) : (b.look action).panes id = (b.panes id).move
    (if b.focus.current = id then action.rows else 0)
    (if id = .instructions then action.columns else 0) := by
  cases action with
  | scrollUp | scrollDown =>
    simp only [look, modifyPane, Action.rows, Action.columns, ite_self,
      eq_comm (a := b.focus.current)]
    split_ifs
    · exact (Pane.move_rows _ _).symm
    · exact (Pane.move_zero _).symm
  | scrollLeft | scrollRight =>
    simp only [look, modifyPane, Action.rows, Action.columns, ite_self]
    split_ifs
    · exact (Pane.move_columns _ _).symm
    · exact (Pane.move_zero _).symm
  | step | quit | focusNext | focusPrevious | none =>
    simp only [Action.rows, Action.columns, ite_self]
    exact (Pane.move_zero _).symm

theorem focus_look {k : Int} (h : b.focus.current = PaneId.atIndex k) :
    (b.look action).focus.current = PaneId.atIndex (k + action.places) := by
  cases action with
  | focusNext => exact Focus.shift_atIndex h 1
  | focusPrevious => exact Focus.shift_atIndex h (-1)
  | step | quit | scrollUp | scrollDown | scrollLeft | scrollRight | none =>
    exact h.trans (congrArg PaneId.atIndex (Int.add_zero k).symm)

theorem heldPanes_look : (b.look action).heldPanes = b.heldPanes := by
  cases action <;> rfl

end Look

end Board

namespace Session

variable {σ : Type} (host : Host σ)

section Unmoved

variable (s : Session σ)

theorem unmoved_refresh : s.board.Unmoved (s.refresh host).session.board := by
  rcases refresh_cases host s with ⟨snapshot, w, hs, h⟩ | ⟨e, w, -, h⟩ <;> rw [h]
  · exact s.board.unmoved_showSnapshot (Simulator.followsListing_snapshot hs)
  · exact .refl _

theorem unmoved_load : s.board.Unmoved (s.load host).session.board := by
  have hlisting : s.board.Unmoved (s.readListing host).session.board := by
    unfold readListing pull
    rcases host.simulator.currentListing s.world with ⟨lines, w⟩ | ⟨e, w⟩ <;>
      exact .of_panes rfl rfl rfl
  rcases load_cases host s with ⟨e, -, h⟩ | ⟨-, h⟩ <;> rw [h]
  · exact hlisting
  · exact hlisting.trans (unmoved_refresh host _)

theorem unmoved_step : s.board.Unmoved (s.step host).session.board := by
  have hadvance : s.board.Unmoved (s.advance host).session.board := by
    rcases advance_cases host s with ⟨o, -, h⟩ | ⟨e, -, h⟩ <;> rw [h]
    · rw [board_takeOutcome, board_reported]
      rcases o.status <;> exact .of_panes rfl rfl rfl
    · rw [board_reported]
      exact .refl _
  rcases step_cases host s with ⟨o, -, -, h⟩ | ⟨o, -, -, h⟩ | ⟨e, -, h⟩ <;> rw [h]
  · exact hadvance.trans (unmoved_refresh host _)
  · exact hadvance
  · exact hadvance

theorem unmoved_refreshLog (id : LogId) : s.board.Unmoved (s.refreshLog host id).session.board := by
  unfold refreshLog
  dsimp only
  rcases (host.logFile id s.world).failure? (host.logPath id) with _ | e
  · exact s.board.unmoved_showLog id _
  · exact .refl _

theorem unmoved_refreshLogs : s.board.Unmoved (s.refreshLogs host).session.board := by
  have houtput := unmoved_refreshLog host s .output
  rcases refreshLogs_cases host s with ⟨-, h⟩ | ⟨e, -, h⟩ <;> rw [h]
  · exact houtput.trans (unmoved_refreshLog host _ .messages)
  · exact houtput

end Unmoved

theorem unmoved_settle (t : Turn σ Bool) :
    t.session.board.Unmoved (settle host t).session.board := by
  obtain ⟨result, s⟩ := t
  rcases result with e | (_ | _)
  · cases e with
    | fault message =>
      have hfault : s.board.Unmoved (s.showFault host message).board := .of_panes rfl rfl rfl
      exact hfault.trans (unmoved_refreshLogs host (s.showFault host message))
    | file _ | undefined _ _ | inverted _ | unsupported _ => exact .refl _
  · exact .refl _
  · exact unmoved_refreshLogs host s

theorem unmoved_start (s : Session σ) : s.board.Unmoved (s.start host).session.board := by
  have hload := unmoved_load host { s with board := s.board.resetStreams }
  have hsettle := unmoved_settle host (goingOn (load host { s with board := s.board.resetStreams }))
  have hreset : s.board.Unmoved s.board.resetStreams := .of_panes rfl rfl rfl
  exact hreset.trans (hload.trans hsettle)

theorem unmoved_act (s : Session σ) (action : Action) :
    (s.board.look action).Unmoved (s.act host action).session.board := by
  by_cases hstep : action = .step
  · rw [hstep]
    exact (unmoved_step host s).trans (unmoved_settle host _)
  · rw [act_of_ne_step host s hstep]
    split_ifs with hquit
    · rw [hquit]
      exact .refl _
    · exact unmoved_settle host ⟨.ok true, { s with board := s.board.look action }⟩

/-- The key that an event has a session hear, with the pane in focus: a fault box takes the key for
itself. -/
def heard (s : Session σ) : Event σ → List (PaneId × Action)
  | .key name =>
    if s.board.overlay = none then [(s.board.focus.current, Action.ofKey name)] else []
  | .draw | .outside _ => []

/-- The keys that are heard in some events, each with the pane in focus. -/
def heardOver (s : Session σ) : List (Event σ) → List (PaneId × Action)
  | [] => []
  | event :: events => s.heard event ++ heardOver (s.afterEvent host event) events

/-- After an event a board is where the key that was heard moved it. -/
theorem unmoved_afterEvent (s : Session σ) (event : Event σ) :
    (((s.heard event).map Prod.snd).foldl Board.look s.board).Unmoved
      (s.afterEvent host event).board := by
  cases event with
  | key name =>
    unfold heard afterEvent handleKey
    rcases s.board.overlay with _ | text
    · exact unmoved_act host s (Action.ofKey name)
    · exact .of_panes rfl rfl rfl
  | draw => exact s.board.unmoved_compose
  | outside change => exact .refl _

end Session

/-- How often an action is among the keys that were heard. -/
def timesHeard (heard : List (PaneId × Action)) (action : Action) : Int :=
  (heard.map Prod.snd).count action

/-- How often an action is among the keys that were heard while a pane was in focus. -/
def timesHeardBy (heard : List (PaneId × Action)) (id : PaneId) (action : Action) : Int :=
  heard.count (id, action)

/-- A board is where the keys that were heard add up to. -/
structure Accounted (heard : List (PaneId × Action)) (b : Board) : Prop where
  focus : b.focus.current
    = PaneId.atIndex (1 + timesHeard heard .focusNext - timesHeard heard .focusPrevious)
  column : ∀ id, (b.panes id).column = if id = .instructions then
    columnStep * (timesHeard heard .scrollRight - timesHeard heard .scrollLeft) else 0
  row : ∀ id ∈ PaneId.keyScrolled, (b.panes id).row
    = timesHeardBy heard id .scrollDown - timesHeardBy heard id .scrollUp
  label : ∀ id, (b.panes id).label = id.label
  held : b.heldPanes = PaneId.all

section Accounted

variable {heard : List (PaneId × Action)} {b b' : Board}

theorem count_singleton_eq_ite {α : Type} [BEq α] [LawfulBEq α] [DecidableEq α] (a a' : α) :
    ([a].count a' : Int) = if a = a' then 1 else 0 := by
  rw [List.count_singleton]
  by_cases h : a = a'
  · rw [if_pos h, if_pos (beq_iff_eq.2 h)]
    rfl
  · rw [if_neg h, if_neg (mt beq_iff_eq.1 h)]
    rfl

theorem timesHeard_append (id : PaneId) (action action' : Action) :
    timesHeard (heard ++ [(id, action)]) action'
      = timesHeard heard action' + if action = action' then 1 else 0 := by
  unfold timesHeard
  rw [List.map_append, List.count_append, Int.natCast_add, ← count_singleton_eq_ite]
  rfl

theorem timesHeardBy_append (id id' : PaneId) (action action' : Action) :
    timesHeardBy (heard ++ [(id, action)]) id' action'
      = timesHeardBy heard id' action' + if (id, action) = (id', action') then 1 else 0 := by
  unfold timesHeardBy
  rw [List.count_append, Int.natCast_add, ← count_singleton_eq_ite]

theorem Accounted.of_unmoved (h : Accounted heard b) (hu : b.Unmoved b') : Accounted heard b' where
  focus := by rw [hu.focus, h.focus]
  column id := by rw [hu.column, h.column]
  row id hid := by rw [hu.row id hid, h.row id hid]
  label id := by rw [hu.label, h.label]
  held := by rw [hu.held, h.held]

theorem accounted_look (h : Accounted heard b) (action : Action) :
    Accounted (heard ++ [(b.focus.current, action)]) (b.look action) := by
  refine ⟨?_, fun id => ?_, fun id hid => ?_, fun id => ?_, ?_⟩
  · rw [b.focus_look action h.focus, action.places_eq, timesHeard_append, timesHeard_append]
    congr 1
    omega
  · have hcolumn : ((b.look action).panes id).column = (b.panes id).column
        + if id = .instructions then action.columns else 0 := by
      rw [b.panes_look]
      rfl
    rw [hcolumn, h.column, timesHeard_append, timesHeard_append]
    by_cases hid : id = .instructions
    · rw [if_pos hid, if_pos hid, if_pos hid, action.columns_eq, ← Int.mul_add]
      congr 1
      omega
    · rw [if_neg hid, if_neg hid, if_neg hid]
      rfl
  · have hrow : ((b.look action).panes id).row = (b.panes id).row
        + if b.focus.current = id then action.rows else 0 := by
      rw [b.panes_look]
      rfl
    rw [hrow, h.row id hid, action.rows_eq, timesHeardBy_append, timesHeardBy_append]
    by_cases hf : b.focus.current = id
    · simp only [hf, Prod.mk.injEq, true_and, if_true]
      omega
    · simp only [hf, Prod.mk.injEq, false_and, if_false]
      omega
  · rw [b.panes_look]
    exact h.label id
  · rw [b.heldPanes_look, h.held]

end Accounted

namespace Session

variable {σ : Type} (host : Host σ)

theorem accounted_afterEvent {heard : List (PaneId × Action)} {s : Session σ}
    (h : Accounted heard s.board) (event : Event σ) :
    Accounted (heard ++ s.heard event) (s.afterEvent host event).board := by
  refine Accounted.of_unmoved ?_ (unmoved_afterEvent host s event)
  cases event with
  | key name =>
    unfold Session.heard
    split_ifs
    · exact accounted_look h (Action.ofKey name)
    · rwa [List.append_nil]
  | draw | outside _ => rwa [Session.heard, List.append_nil]

theorem accounted_over_events : ∀ (events : List (Event σ)) {s : Session σ}
    {heard : List (PaneId × Action)}, Accounted heard s.board →
      Accounted (heard ++ s.heardOver host events) (events.foldl (afterEvent host) s).board
  | [], s, heard, h => by rwa [heardOver, List.append_nil]
  | event :: events, s, heard, h => by
    rw [heardOver, ← List.append_assoc]
    exact accounted_over_events events (accounted_afterEvent host h event)

theorem accounted_fresh (program : String) (width height : Int) (options : ViewOptions)
    (world : σ) : Accounted [] (fresh program width height options world).board where
  focus := rfl
  column id := by
    split_ifs <;> rfl
  row _ _ := rfl
  label _ := rfl
  held := rfl

/-- Once begun, and whatever steps, faults and drawings come in between, the focus has gone round
from the listing by as many panes as focus keys were heard, the listing is scrolled sideways by as
many steps as keys for that were heard, and no other pane is; the panes of the registers and of
memory are scrolled by as many rows as scroll keys were heard while they were in focus. A screen
without a fault box shows all panes, and just the title of the one in focus is in brackets. -/
theorem keys_move_focus_and_panes (program : String) (width height : Int) (options : ViewOptions)
    (world : σ) (events : List (Event σ)) :
    let s := (fresh program width height options world).after host events
    let heard :=
      ((fresh program width height options world).start host).session.heardOver host events
    PaneId.all[((1 + timesHeard heard .focusNext - timesHeard heard .focusPrevious) % 6).toNat]?
        = some s.board.focus.current
      ∧ s.board.focus.current ∈ s.board.heldPanes
      ∧ (∀ id, (s.board.panes id).column = if id = .instructions then
          4 * (timesHeard heard .scrollRight - timesHeard heard .scrollLeft) else 0)
      ∧ (∀ id ∈ [PaneId.registers, .data, .stack], (s.board.panes id).row
          = timesHeardBy heard id .scrollDown - timesHeardBy heard id .scrollUp)
      ∧ (s.board.overlay = none → (s.compose.2.contents.map fun c => (c.1, c.2.title?)).Perm
          (("header", some "SPIM Dashboard") :: ("help", none) :: PaneId.all.map fun id =>
            (id.name, some (id.titleText (id = s.board.focus.current))))) := by
  intro s heard
  have hstart := (accounted_fresh program width height options world).of_unmoved
    (unmoved_start host _)
  have h : Accounted heard s.board := accounted_over_events host events hstart
  refine ⟨?_, ?_, h.column, h.row, fun ho => s.board.titles_compose ho h.label⟩
  · rw [PaneId.all_getElem_emod, h.focus]
  · rw [h.held]
    exact PaneId.mem_all _

end Session

namespace Scripted

/-- A machine whose first step fails. -/
def stumbling : Bench where
  events := [{ fault := some "bad read" }]
  files := { workingPlace := [] }
  outputLog := Path.ofString "out.log"
  messageLog := Path.ofString "msg.log"

def stumblingHost : Host Bench :=
  host stumbling.outputLog stumbling.messageLog

def stumblingSession : Session Bench :=
  .fresh "p.s" 60 22 {} stumbling

/-- Keys of which the fault box takes the last but one. -/
def stumblingEvents : List (Stepboard.Event Bench) :=
  [.key "l", .key "tab", .key "j", .key "s", .draw, .key "j", .key "j"]

/-- With the pane of the data in focus, a key that the fault box takes does not scroll it. -/
theorem keys_heard_past_fault :
    let s := stumblingSession.after stumblingHost stumblingEvents
    (stumblingSession.start stumblingHost).session.heardOver stumblingHost stumblingEvents
      = [(.instructions, .scrollRight), (.instructions, .focusNext), (.data, .scrollDown),
        (.data, .step), (.data, .scrollDown)]
      ∧ s.board.focus.current = .data ∧ (s.board.panes .data).row = 2
      ∧ (s.board.panes .instructions).column = 4
      ∧ ("data", some "[Data]") ∈ s.compose.2.contents.map fun c => (c.1, c.2.title?) := by
  intro s
  have hheard : (stumblingSession.start stumblingHost).session.heardOver stumblingHost
      stumblingEvents = [(.instructions, .scrollRight), (.instructions, .focusNext),
        (.data, .scrollDown), (.data, .step), (.data, .scrollDown)] := by decide +kernel
  obtain ⟨hfocus, -, hcolumn, hrow, htitles⟩ := Session.keys_move_focus_and_panes stumblingHost
    "p.s" 60 22 {} stumbling stumblingEvents
  rw [show Session.fresh "p.s" 60 22 {} stumbling = stumblingSession from rfl] at *
  rw [hheard] at hfocus hcolumn hrow
  have hdata : s.board.focus.current = .data := (Option.some.inj hfocus).symm
  have htitled := (htitles (by decide +kernel)).mem_iff (a := ("data", some "[Data]"))
  rw [hdata] at htitled
  exact ⟨hheard, hdata, hrow .data (by decide), hcolumn .instructions, htitled.2 (by decide)⟩

end Scripted

end Stepboard
