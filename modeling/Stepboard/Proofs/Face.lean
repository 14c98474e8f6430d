import Stepboard.Board.Basic
import Stepboard.Proofs.Following
/-!
# What a board tells of the simulator

The lines and styles of four panes, with the program counter and the current instruction, and none
of the scroll positions, titles or logs. Showing a snapshot makes all of it the snapshot's
(`face_showSnapshot`), and showing a log or scrolling leaves it alone.
-/

namespace Stepboard

/-- The lines of a pane and their styles, whatever part of them is in view. -/
abbrev PaneText := List String × LineStyles

/-- What the board tells of the simulator. -/
structure Face where
  registers : PaneText := ([], [])
  instructions : PaneText := ([], [])
  data : PaneText := ([], [])
  stack : PaneText := ([], [])
  pc : Int := 0
  instruction : String := ""

def Pane.paneText (p : Pane) : PaneText :=
  (p.content, p.styles)

def Board.face (b : Board) : Face where
  registers := (b.panes .registers).paneText
  instructions := (b.panes .instructions).paneText
  data := (b.panes .data).paneText
  stack := (b.panes .stack).paneText
  pc := b.pc
  instruction := b.instruction

def Snapshot.face (s : Snapshot) : Face where
  registers := (s.registers.lines, s.registers.styles)
  instructions := (s.instructions.lines, s.instructions.styles)
  data := (s.data.lines, s.data.styles)
  stack := (s.stack.lines, s.stack.styles)
  pc := s.pc
  instruction := s.instruction

namespace Board

theorem face_blank (program : String) (width height : Int) (options : ViewOptions) :
    (blank program width height options).face = {} := rfl

theorem paneText_follow (p : Pane) (line : Int) : (p.follow line).paneText = p.paneText := by
  rw [Pane.follow_row]
  rfl

theorem paneText_showContent (b : Board) (id i : PaneId) (c : Content) :
    ((b.showContent id c).panes i).paneText =
      if i = id then (c.lines, c.styles) else (b.panes i).paneText := by
  simp only [showContent, modifyPane]
  split_ifs
  · cases c.focusLine with
    | none => rfl
    | some line => exact paneText_follow _ _
  · rfl

theorem showContent_keeps (b : Board) (id : PaneId) (c : Content) :
    (b.showContent id c).options = b.options ∧ (b.showContent id c).listing = b.listing
      ∧ (b.showContent id c).overlay = b.overlay ∧ (b.showContent id c).steps = b.steps :=
  ⟨rfl, rfl, rfl, rfl⟩

/-- A snapshot is shown in panes and header only. -/
theorem showSnapshot_keeps (b : Board) (s : Snapshot) :
    (b.showSnapshot s).options = b.options ∧ (b.showSnapshot s).listing = b.listing
      ∧ (b.showSnapshot s).overlay = b.overlay ∧ (b.showSnapshot s).steps = b.steps := by
  simp only [showSnapshot, showContent_keeps, and_self]

theorem face_showSnapshot (b : Board) (s : Snapshot) : (b.showSnapshot s).face = s.face := by
  simp [face, showSnapshot, paneText_showContent, Snapshot.face]

/-- A log pane is none of the panes that show the simulator. -/
theorem panes_showLog (b : Board) (log : LogId) (file : LogFile) {id : PaneId}
    (h : id ≠ .output ∧ id ≠ .log) : (b.showLog log file).panes id = b.panes id := by
  cases log <;> simp [showLog, modifyPane, LogId.pane, h.1, h.2]

theorem face_showLog (b : Board) (log : LogId) (file : LogFile) :
    (b.showLog log file).face = b.face := by
  simp [face, panes_showLog]
  exact ⟨rfl, rfl⟩

theorem face_modifyPane (b : Board) (id : PaneId) (f : Pane → Pane)
    (hf : ∀ p, (f p).paneText = p.paneText) : (b.modifyPane id f).face = b.face := by
  have h : ∀ i, ((b.modifyPane id f).panes i).paneText = (b.panes i).paneText := by
    intro i
    simp only [modifyPane]
    split_ifs
    · exact hf _
    · rfl
  simp only [face, h]
  rfl

theorem face_look (b : Board) (action : Action) : (b.look action).face = b.face := by
  cases action with
  | scrollUp => exact b.face_modifyPane _ (·.scroll (-1)) fun _ => rfl
  | scrollDown => exact b.face_modifyPane _ (·.scroll 1) fun _ => rfl
  | scrollLeft => exact b.face_modifyPane _ (·.scrollHorizontal (-columnStep)) fun _ => rfl
  | scrollRight => exact b.face_modifyPane _ (·.scrollHorizontal columnStep) fun _ => rfl
  | _ => rfl

end Board

end Stepboard
