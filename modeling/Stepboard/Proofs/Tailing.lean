import Mathlib.Data.List.Chain
import Stepboard.Proofs.Appending
import Stepboard.Proofs.LogPanes
/-!
# Log panes follow their files

A log pane whose last known line is in view shows the end of its file whenever the file has grown
(`follows_refreshed`), and one that ends above that line keeps its top line whatever becomes of the
file (`above_refreshed`). Both hold on until the pane is scrolled.
-/

namespace Stepboard

namespace LogState

variable {x : LogState} {file file' : LogFile}

/-- Every known line is in the file, and the last of them is in view. -/
structure Follows (x : LogState) (file : LogFile) : Prop where
  known : x.stream.offset = file.lineCount
  inView : x.stream.offset ≤ x.top + x.pane.innerHeight

/-- The last known line is below the lines in view. -/
def Above (x : LogState) : Prop :=
  x.top + x.pane.innerHeight < x.stream.offset

theorem known_refreshed (h : x.stream.offset = file.lineCount) (hg : file.Grows file') :
    (x.refreshed file').stream.offset = file'.lineCount := by
  have hle := LogFile.lineCount_le_of_grows hg
  rw [offset_refreshed, h, Nat.max_eq_right hle]

theorem follows_refreshed (hh : 0 < x.pane.innerHeight) (h : x.Follows file)
    (hg : file.Grows file') : (x.refreshed file').Follows file' := by
  have hknown := known_refreshed h.known hg
  refine ⟨hknown, ?_⟩
  rw [hknown, top_refreshed x file' hh, innerHeight_refreshed]
  have hle := LogFile.lineCount_le_of_grows hg
  have hk := h.known
  have hv := h.inView
  split_ifs with hnew <;> omega

theorem above_refreshed (file : LogFile) (hh : 0 < x.pane.innerHeight) (h : x.Above) :
    (x.refreshed file).top = x.top ∧ (x.refreshed file).Above := by
  unfold Above at h ⊢
  have htop : (x.refreshed file).top = x.top := by
    rw [top_refreshed x file hh, if_neg (by omega)]
  refine ⟨htop, ?_⟩
  rw [htop, innerHeight_refreshed, offset_refreshed]
  omega

/-- The last line of the file is the last one seen. -/
theorem getLast?_window (hs : x.ShowsFile file) (hf : x.Follows file) :
    x.pane.window.getLast? = file.lines.getLast?.map (cutLine 0 x.pane.innerWidth) := by
  have htop : x.pane.origin = min x.pane.row.toNat (file.lineCount - 1) := by
    rw [hs.origin, hs.top, ← hf.known]
    rfl
  have hview : file.lines.length ≤ x.pane.origin + x.pane.innerHeight := by
    have hv := hf.inView
    rwa [hf.known, ← hs.top, ← hs.origin] at hv
  rw [hs.window, LogFile.read_eq, List.getLast?_map, List.take_of_length_le (by simp; omega),
    List.getLast?_drop]
  unfold LogFile.lineCount at htop
  split_ifs with hend
  · have hnone : file.lines = [] := List.eq_nil_of_length_eq_zero (by omega)
    rw [hnone, List.getLast?_nil]
  · rfl

theorem head?_window (hh : 0 < x.pane.innerHeight) (hs : x.ShowsFile file) :
    x.pane.window.head? = file.lines[x.pane.visibleStart]?.map (cutLine 0 x.pane.innerWidth) := by
  rw [hs.window, LogFile.read_eq, List.head?_map, List.head?_take, if_neg (by omega),
    List.head?_drop, hs.origin]

/-- The top line is still the one it was if its file went on with it finished. -/
theorem head?_window_of_continues {x' : LogState} (hh : 0 < x.pane.innerHeight)
    (hs : x.ShowsFile file) (hs' : x'.ShowsFile file')
    (hlines : Text.Continues file.lines file'.lines) (hrect : x'.pane.rect = x.pane.rect)
    (hstart : x'.pane.visibleStart = x.pane.visibleStart)
    (hfinished : x.pane.visibleStart + 1 < file.lineCount) :
    x'.pane.window.head? = x.pane.window.head? := by
  have hheight : x'.pane.innerHeight = x.pane.innerHeight := by
    unfold Pane.innerHeight
    rw [hrect]
  have hwidth : x'.pane.innerWidth = x.pane.innerWidth := by
    unfold Pane.innerWidth
    rw [hrect]
  rw [head?_window hh hs, head?_window (by rwa [hheight]) hs', hwidth, hstart,
    hlines.getElem? hfinished]

end LogState

namespace Session

variable {σ : Type} (host : Host σ)

section Following

variable {host} {paths : LogId → Path} (hat : host.LogsAt paths) {s : Session σ} {b : Bool}
  (hs : (s.start host).result = .ok b) {id : LogId}

include hat hs

/-- As long as a file only grows, the lines known of it are the lines that it has. -/
theorem known_after (events : List (Event σ))
    (hgrow : (s.filesShown host id events).IsChain LogFile.Grows) :
    ∃ file, (s.filesShown host id events).getLast? = some file
      ∧ ((s.after host events).board.streams id).offset = file.lineCount := by
  obtain ⟨first, hlog, hfiles⟩ := log_start host hs id
  rw [hfiles] at hgrow ⊢
  refine log_over_events host (readable_of_start host hat hs)
    (I := fun x file => x.stream.offset = file.lineCount) (D := fun _ => True)
    (fun x _ _ _ h hg _ => LogState.known_refreshed h hg) events _ first ?_ hgrow
    fun _ _ => trivial
  rw [hlog, LogState.offset_refreshed, Nat.zero_max]

theorem follows_after (hh : 0 < (s.board.log id).pane.innerHeight) (events : List (Event σ))
    (hgrow : (s.filesShown host id events).IsChain LogFile.Grows)
    (hstill : ∀ delta ∈ (s.start host).session.scrollsOver host id events, delta = 0) :
    ∃ file, (s.filesShown host id events).getLast? = some file
      ∧ ((s.after host events).board.log id).Follows file := by
  obtain ⟨first, hlog, hfiles⟩ := log_start host hs id
  have hbegin : LogState.Follows (LogState.mk (s.board.log id).pane {}) (.error .missing) :=
    ⟨rfl, Nat.zero_le _⟩
  rw [hfiles] at hgrow ⊢
  obtain ⟨last, hlast, hfollows, -⟩ := log_over_events host (readable_of_start host hat hs)
    (I := fun x file => x.Follows file ∧ 0 < x.pane.innerHeight)
    (fun x file file' delta h hg hd => by
      rw [hd, LogState.scroll_zero]
      exact ⟨LogState.follows_refreshed h.2 h.1 hg, h.2⟩)
    events _ first (by
      rw [hlog]
      exact ⟨LogState.follows_refreshed hh hbegin trivial, hh⟩) hgrow hstill
  exact ⟨last, hlast, hfollows⟩

end Following

section Staying

variable {host} (hread : ∀ id w, host.logFile id w ≠ .error .impossible) {s : Session σ}
  {id : LogId} {more : List (Event σ)} (hstill : ∀ delta ∈ s.scrollsOver host id more, delta = 0)

include hread hstill

/-- A pane that ends above the last known line keeps its top line, whatever becomes of the file. -/
theorem top_over_events (hh : 0 < (s.board.log id).pane.innerHeight)
    (habove : (s.board.log id).Above) :
    ((more.foldl (afterEvent host) s).board.log id).top = (s.board.log id).top := by
  obtain ⟨-, -, htop, -⟩ := log_over_events host hread
    (I := fun x _ => x.top = (s.board.log id).top ∧ x.Above ∧ 0 < x.pane.innerHeight)
    (fun x file file' delta h _ hd => by
      obtain ⟨htop, habove, hh⟩ := h
      obtain ⟨hkept, habove'⟩ := LogState.above_refreshed file' hh habove
      rw [hd, LogState.scroll_zero]
      exact ⟨hkept.trans htop, habove', hh⟩)
    more s (.error .missing) ⟨rfl, habove, hh⟩ (isChain_true _) hstill
  exact htop

/-- The file shown in the end goes on with the lines of the one shown before. -/
theorem continues_over_events {file : LogFile} (hshows : (s.board.log id).ShowsFile file)
    (hcolumn : (s.board.log id).pane.column = 0)
    (hgrow : (file :: s.filesOver host id more).IsChain LogFile.Grows) :
    ∃ last, Text.Continues file.lines last.lines
      ∧ ((more.foldl (afterEvent host) s).board.log id).ShowsFile last
      ∧ ((more.foldl (afterEvent host) s).board.log id).pane.rect = (s.board.log id).pane.rect := by
  obtain ⟨last, -, hlines, hshows, hrect, -⟩ := log_over_events host hread
    (I := fun x last => Text.Continues file.lines last.lines ∧ x.ShowsFile last
      ∧ x.pane.rect = (s.board.log id).pane.rect ∧ x.pane.column = 0)
    (fun x last next delta h hg _ => by
      obtain ⟨hlines, -, hrect, hcolumn⟩ := h
      have hscrolled : (x.scroll delta).pane.column = 0 := hcolumn
      exact ⟨hlines.trans (LogFile.continues_of_grows hg),
        LogState.showsFile_refreshed hscrolled next, hrect, hscrolled⟩)
    more s file ⟨.refl _, hshows, rfl, hcolumn⟩ hgrow hstill
  exact ⟨last, hlines, hshows, hrect⟩

end Staying

/-- Showing the logs keeps the top line of a log pane unless lines have come below the last one
shown, and then shows the last lines there are. So, between two scrolls of the pane, it goes on to
show the end of a file that only grows, and one that ends above the last known line keeps its top
line. -/
theorem log_panes_follow_or_stay {paths : LogId → Path} (hat : host.LogsAt paths)
    (program : String) (width height : Int) (options : ViewOptions) (world : σ) {b : Bool}
    (hs : ((fresh program width height options world).start host).result = .ok b) (id : LogId)
    (hh : 0 < ((fresh program width height options world).board.panes id.pane).innerHeight) :
    (∀ r : Session σ, 0 < (r.board.panes id.pane).innerHeight →
        let p := r.board.panes id.pane
        let top := (r.board.streams id).clamp p.row
        let offset := (r.board.streams id).offset
        let count := (r.fileShown host id).lineCount
        (r.refreshLogs host).result = .ok ()
          ∧ ((r.refreshLogs host).session.board.panes id.pane).visibleStart
            = if offset ≤ top + p.innerHeight ∧ offset < count then count - p.innerHeight else top)
      ∧ (∀ events : List (Event σ),
        let begun := (fresh program width height options world).start host
        let files := (fresh program width height options world).filesShown host id events
        let s := (fresh program width height options world).after host events
        let p := s.board.panes id.pane
        files.IsChain LogFile.Grows →
          ∃ file, files.getLast? = some file ∧ (s.board.streams id).offset = file.lineCount
            ∧ ((∀ delta ∈ begun.session.scrollsOver host id events, delta = 0) →
              p.window.getLast? = file.lines.getLast?.map (cutLine 0 p.innerWidth)))
      ∧ ∀ events more : List (Event σ),
        let s := (fresh program width height options world).after host events
        let s' := (fresh program width height options world).after host (events ++ more)
        let p := s.board.panes id.pane
        p.visibleStart + p.innerHeight < (s.board.streams id).offset →
          (∀ delta ∈ s.scrollsOver host id more, delta = 0) →
          (s'.board.panes id.pane).visibleStart = p.visibleStart
            ∧ ∀ file, ((fresh program width height options world).filesShown host id
                events).getLast? = some file →
              (s.board.streams id).offset = file.lineCount →
              (file :: s.filesOver host id more).IsChain LogFile.Grows →
              (s'.board.panes id.pane).window.head? = p.window.head? := by
  have hread := readable_of_start host hat hs
  have hcolumn : ((fresh program width height options world).board.log id).pane.column = 0 := by
    cases id <;> rfl
  refine ⟨?rule, ?follows, ?stays⟩
  case rule =>
    intro r hr p top offset count
    have hok := refreshLogs_of_readable host hread (s := r)
    have hlog := (log_refreshLogs host hok id).2
    refine ⟨hok, ?_⟩
    have htop := LogState.top_refreshed (r.board.log id) (r.fileShown host id) hr
    rw [← LogState.visibleStart_refreshed, ← hlog] at htop
    exact htop.trans (if_congr and_comm rfl rfl)
  case follows =>
    intro events begun files s p hgrow
    obtain ⟨file, hlast, hshows, -⟩ := showsFile_after host hat hs id hcolumn events
    refine ⟨file, hlast, ?_, fun hstill => ?_⟩
    · obtain ⟨file', hlast', hknown⟩ := known_after hat hs events hgrow
      rw [hlast] at hlast'
      cases hlast'
      exact hknown
    · obtain ⟨file', hlast', hfollows⟩ := follows_after hat hs hh events hgrow hstill
      rw [hlast] at hlast'
      cases hlast'
      have hend := LogState.getLast?_window hshows hfollows
      rwa [Board.window_log] at hend
  case stays =>
    intro events more s s' p habove hstill
    have happend : s' = more.foldl (afterEvent host) s := List.foldl_append
    obtain ⟨file, hlast, hshows, hcol, hrect⟩ := showsFile_after host hat hs id hcolumn events
    obtain ⟨_, -, hshows', -⟩ := showsFile_after host hat hs id hcolumn (events ++ more)
    have hheight : 0 < (s.board.log id).pane.innerHeight := by
      unfold Pane.innerHeight
      rw [hrect]
      exact hh
    have hbelow : (s.board.log id).Above := by
      unfold LogState.Above
      rw [← hshows.top]
      exact habove
    have htop := top_over_events hread hstill hheight hbelow
    rw [← happend, ← hshows.top, ← hshows'.top] at htop
    refine ⟨htop, fun file' hlast' hknown hgrow => ?_⟩
    rw [hlast] at hlast'
    cases hlast'
    obtain ⟨last, hlines, hshows'', hrect'⟩ :=
      continues_over_events hread hstill hshows hcol hgrow
    rw [← happend] at hshows'' hrect'
    -- A known line lies below the lines in view, so the top line was finished.
    have hcount : p.visibleStart + p.innerHeight < file.lineCount := by rwa [← hknown]
    have hfinished : (s.board.log id).pane.visibleStart + 1 < file.lineCount :=
      lt_of_le_of_lt (Nat.add_le_add_left hheight _) hcount
    have hhead := LogState.head?_window_of_continues hheight hshows hshows'' hlines hrect' htop
      hfinished
    rwa [Board.window_log, Board.window_log] at hhead

end Session

namespace Scripted

/-- As its file gets two more lines, a pane at the end of it shows them; scrolled up, it keeps its
top line when the file gets two more. -/
theorem log_pane_follows_then_stays :
    let s := printedSession ["a", "b", "c", "d", "e", "f"]
    let tabs := [.outside (reprint ["a", "b", "c", "d", "e", "f", "g", "h"]), .key "tab",
      .key "tab", .key "tab"]
    let up := [.key "up"]
    let more := [.outside (reprint ["a", "b", "c", "d", "e", "f", "g", "h", "i", "j"]), .key "x"]
    ((s.after printedHost tabs).board.panes .output).window.getLast? = some "h"
      ∧ ((s.after printedHost (tabs ++ up)).board.panes .output).window = ["d", "e", "f", "g"]
      ∧ ((s.after printedHost ((tabs ++ up) ++ more)).board.panes .output).window.head?
        = some "d" := by
  intro s tabs up more
  have hbegun : (s.start printedHost).result = .ok true := by decide +kernel
  obtain ⟨-, hfollows, hstays⟩ := Session.log_panes_follow_or_stay printedHost (logsAt_host _ _)
    "p.s" 60 22 {} (printed ["a", "b", "c", "d", "e", "f"]) hbegun .output (by decide +kernel)
  obtain ⟨file, hlast, -, hend⟩ := hfollows tabs (by decide +kernel)
  have hfile : file = .ok (Utf8.encode "a\nb\nc\nd\ne\nf\ng\nh\n".toList) := by
    refine Option.some.inj (hlast.symm.trans ?_)
    decide +kernel
  have hwindow : ((s.after printedHost (tabs ++ up)).board.panes .output).window
      = ["d", "e", "f", "g"] := by decide +kernel
  obtain ⟨-, hhead⟩ := hstays (tabs ++ up) more (by decide +kernel) (by decide +kernel)
  have hkept := hhead (.ok (Utf8.encode "a\nb\nc\nd\ne\nf\ng\nh\n".toList)) (by decide +kernel)
    (by decide +kernel) (by decide +kernel)
  refine ⟨(hend (by decide +kernel)).trans ?_, hwindow, hkept.trans ?_⟩
  · rw [hfile]
    decide +kernel
  · exact congrArg List.head? hwindow

end Scripted

end Stepboard
