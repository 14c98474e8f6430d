import Mathlib.Tactic.SplitIfs
import Stepboard.Board.Basic
/-!
# The logs of a board

Showing a log file is one rule on what a board holds of a log (`log_showLog`): lines that have come
below the last one shown pull the pane down to them (`top_refreshed`), and the pane then holds the
window of the file at the known line nearest to its row. The pane's own clamp takes nothing away
from that window (`showsFile_refreshed`).
-/

namespace Stepboard

/-- What a board holds of a log: its pane, the title aside, and its stream. -/
structure LogState where
  pane : Pane
  stream : LogStream

namespace LogState

/-- The known line nearest to the row that the pane is scrolled to. -/
def top (x : LogState) : Nat :=
  x.stream.clamp x.pane.row

def scroll (x : LogState) (delta : Int) : LogState :=
  { x with pane := x.pane.scroll delta }

/-- A log once its file was shown. -/
def refreshed (x : LogState) (file : LogFile) : LogState :=
  let stream : LogStream := ⟨max x.stream.offset file.lineCount⟩
  let row : Int :=
    if x.stream.offset < file.lineCount ∧ x.stream.offset ≤ x.top + x.pane.innerHeight then
      (stream.offset - x.pane.innerHeight : Nat)
    else x.pane.row
  { pane :=
      { x.pane with
        row, content := file.read (stream.clamp row) x.pane.innerHeight, styles := [],
        origin := stream.clamp row }
    stream }

theorem scroll_zero (x : LogState) : x.scroll 0 = x := by
  unfold scroll Pane.scroll
  rw [Int.add_zero]

section Refreshed

variable (x : LogState) (file : LogFile)

theorem innerHeight_refreshed : (x.refreshed file).pane.innerHeight = x.pane.innerHeight := rfl

theorem column_refreshed : (x.refreshed file).pane.column = x.pane.column := rfl

theorem offset_refreshed :
    (x.refreshed file).stream.offset = max x.stream.offset file.lineCount := rfl

theorem origin_refreshed : (x.refreshed file).pane.origin = (x.refreshed file).top := rfl

theorem content_refreshed : (x.refreshed file).pane.content
    = file.read (x.refreshed file).top x.pane.innerHeight := rfl

/-- With a line to show in, the top line is kept unless lines have come below the last one shown. -/
theorem top_refreshed (h : 0 < x.pane.innerHeight) : (x.refreshed file).top =
    if x.stream.offset < file.lineCount ∧ x.stream.offset ≤ x.top + x.pane.innerHeight then
      file.lineCount - x.pane.innerHeight
    else x.top := by
  have htop : x.top = min x.pane.row.toNat (x.stream.offset - 1) := rfl
  have htop' : (x.refreshed file).top = min (x.refreshed file).pane.row.toNat
      (max x.stream.offset file.lineCount - 1) := rfl
  rw [htop']
  unfold refreshed
  dsimp only
  split_ifs with hrow
  · rw [Int.toNat_natCast]
    omega
  · omega

end Refreshed

/-- A pane shows a file: it holds the window of the file at the known line nearest to its row, and
what is seen of it is all of that window, cut to the width. -/
structure ShowsFile (x : LogState) (file : LogFile) : Prop where
  origin : x.pane.origin = x.pane.visibleStart
  top : x.pane.visibleStart = x.top
  content : x.pane.content = file.read x.pane.origin x.pane.innerHeight
  window : x.pane.window
    = (file.read x.pane.origin x.pane.innerHeight).map (cutLine 0 x.pane.innerWidth)

end LogState

namespace LogFile

theorem read_eq (file : LogFile) (start height : Nat) :
    file.read start height = (file.lines.drop start).take height := by
  simp [read]

theorem length_read (file : LogFile) (start height : Int) :
    (file.read start height).length = min height.toNat (file.lineCount - start.toNat) := by
  rw [read, List.length_take, List.length_drop, lineCount]

end LogFile

namespace LogState

/-- Below the last known line nothing can be read but that line, so the pane has no other line to
start at than the stream. -/
theorem visibleStart_refreshed (x : LogState) (file : LogFile) :
    (x.refreshed file).pane.visibleStart = (x.refreshed file).top := by
  have hcontent := x.content_refreshed file
  have horigin := x.origin_refreshed file
  have hoffset := x.offset_refreshed file
  generalize x.refreshed file = y at *
  have hlength : y.pane.content.length = min x.pane.innerHeight (file.lineCount - y.top) := by
    rw [hcontent, LogFile.length_read, Int.toNat_natCast, Int.toNat_natCast]
  unfold top LogStream.clamp at *
  unfold Pane.visibleStart
  rw [horigin]
  omega

theorem showsFile_refreshed {x : LogState} (h : x.pane.column = 0) (file : LogFile) :
    (x.refreshed file).ShowsFile file := by
  have hstart := x.visibleStart_refreshed file
  have horigin := x.origin_refreshed file
  have hcontent := x.content_refreshed file
  refine ⟨by rw [horigin, hstart], hstart, by rw [horigin]; exact hcontent, ?_⟩
  unfold Pane.window
  rw [hstart, horigin, Nat.sub_self, List.drop_zero, hcontent, column_refreshed, h]
  rw [innerHeight_refreshed, LogFile.read_eq, List.take_take, Nat.min_self]
  rfl

end LogState

namespace LogStream

/-- A poll gives the lines by which it raises the offset to the lines of the file, if these are
more. -/
theorem poll_eq (s : LogStream) (file : LogFile) : s.poll file
    = (max s.offset file.lineCount - s.offset, ⟨max s.offset file.lineCount⟩) := by
  unfold poll
  split_ifs with h
  · rw [Nat.max_eq_left h, Nat.sub_self]
  · rw [Nat.max_eq_right (by omega)]

end LogStream

namespace Board

def log (b : Board) (id : LogId) : LogState :=
  ⟨{ b.panes id.pane with title := {} }, b.streams id⟩

theorem window_log (b : Board) (id : LogId) :
    (b.log id).pane.window = (b.panes id.pane).window := rfl

theorem log_showLog (b : Board) (id : LogId) (file : LogFile) :
    (b.showLog id file).log id = (b.log id).refreshed file := by
  have hpoll : max (b.streams id).offset file.lineCount - (b.streams id).offset ≠ 0
      ↔ (b.streams id).offset < file.lineCount := by omega
  unfold log showLog LogState.refreshed
  simp only [modifyPane, if_true, LogStream.window, Pane.render, Pane.setContent, Pane.redraw,
    Pane.drawTitle, LogStream.poll_eq, Int.toNat_natCast, bne_iff_ne, hpoll, Bool.and_eq_true,
    decide_eq_true_eq]
  rfl

theorem log_showLog_of_ne (b : Board) {id id' : LogId} (h : id' ≠ id) (file : LogFile) :
    (b.showLog id file).log id' = b.log id' := by
  cases id <;> cases id' <;> first | exact absurd rfl h | rfl

/-- What a key does to the row of a log's pane. -/
def scrollOf (b : Board) (action : Action) (id : LogId) : Int :=
  if b.focus.current = id.pane then
    match action with
    | .scrollUp => -1
    | .scrollDown => 1
    | _ => 0
  else 0

theorem scrollOf_eq_zero {b : Board} {action : Action} {id : LogId}
    (h : b.focus.current = id.pane → action ≠ .scrollUp ∧ action ≠ .scrollDown) :
    b.scrollOf action id = 0 := by
  unfold scrollOf
  split_ifs with hf
  · cases action with
    | scrollUp => exact absurd rfl (h hf).1
    | scrollDown => exact absurd rfl (h hf).2
    | _ => rfl
  · rfl

theorem log_look (b : Board) (action : Action) (id : LogId) :
    (b.look action).log id = (b.log id).scroll (b.scrollOf action id) := by
  have hfocus : ∀ delta : Int, ((b.modifyPane b.focus.current (·.scroll delta)).log id)
      = (b.log id).scroll (if b.focus.current = id.pane then delta else 0) := by
    intro delta
    by_cases h : b.focus.current = id.pane
    · rw [if_pos h, h]
      unfold log modifyPane
      simp only [if_true]
      rfl
    · rw [if_neg h, LogState.scroll_zero]
      unfold log modifyPane
      simp only [if_neg fun e => h (Eq.symm e)]
  cases action with
  | scrollUp => exact hfocus (-1)
  | scrollDown => exact hfocus 1
  | scrollLeft | scrollRight =>
    rw [scrollOf_eq_zero (by simp), LogState.scroll_zero]
    cases id <;> rfl
  | step | quit | focusNext | focusPrevious | none =>
    rw [scrollOf_eq_zero (by simp), LogState.scroll_zero]
    rfl

theorem log_showSnapshot (b : Board) (s : Snapshot) (id : LogId) :
    (b.showSnapshot s).log id = b.log id := by
  cases id <;> rfl

theorem log_compose (b : Board) (id : LogId) : b.compose.1.log id = b.log id := by
  unfold compose drawTitles
  rcases b.overlay with _ | text <;> rfl

end Board

end Stepboard
