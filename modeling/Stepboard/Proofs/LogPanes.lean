import Mathlib.Data.List.Chain
import Stepboard.Proofs.LogState
import Stepboard.Proofs.Steps
import Stepboard.Simulator.Scripted
/-!
# Log panes show the file

Whatever happens to a session, the pane of a log changes only where the logs are shown, by the rule
for one log, after the key's own scrolling (`log_afterEvent`). What that rule preserves is carried
through a session once for all, along the files that a pane comes to show (`log_over_events`). So a
log pane always shows the file that was last found at its path.
-/

namespace Stepboard

variable {σ : Type}

/-- A host has its log files at paths: a file there can be asked about unless no file can have its
path. -/
def Host.LogsAt (host : Host σ) (paths : LogId → Path) : Prop :=
  ∀ id w, host.logFile id w = .error .impossible ↔ (paths id).isImpossible = true

theorem LogFile.failure?_eq_none_iff (file : LogFile) (path : LooseText) :
    file.failure? path = none ↔ file ≠ .error .impossible := by
  unfold LogFile.failure?
  rcases file with e | bytes
  · cases e <;> simp
  · simp

namespace Session

variable (host : Host σ)

theorem log_refresh (s : Session σ) (id : LogId) :
    (s.refresh host).session.board.log id = s.board.log id := by
  rcases refresh_cases host s with ⟨snapshot, w, -, h⟩ | ⟨e, w, -, h⟩ <;> rw [h]
  exact s.board.log_showSnapshot snapshot id

theorem log_load (s : Session σ) (id : LogId) :
    (s.load host).session.board.log id = s.board.log id := by
  have hlisting : (s.readListing host).session.board.log id = s.board.log id := by
    unfold readListing pull
    rcases host.simulator.currentListing s.world with ⟨lines, w⟩ | ⟨e, w⟩ <;> rfl
  rcases load_cases host s with ⟨e, -, h⟩ | ⟨-, h⟩ <;> rw [h]
  · exact hlisting
  · exact (log_refresh host _ id).trans hlisting

theorem log_step (s : Session σ) (id : LogId) :
    (s.step host).session.board.log id = s.board.log id := by
  have hadvance : (s.advance host).session.board.log id = s.board.log id := by
    rcases advance_cases host s with ⟨o, -, h⟩ | ⟨e, -, h⟩ <;> rw [h]
    · rw [board_takeOutcome, board_reported]
      rcases o.status <;> rfl
    · rw [board_reported]
  have hrefresh := log_refresh host (s.advance host).session id
  rcases step_cases host s with ⟨o, -, -, h⟩ | ⟨o, -, -, h⟩ | ⟨e, -, h⟩ <;> rw [h]
  · exact hrefresh.trans hadvance
  · exact hadvance
  · exact hadvance

/-- The file that showing the logs of a session finds for one of them. -/
def fileShown (s : Session σ) : LogId → LogFile
  | .output => host.logFile .output s.world
  | .messages => host.logFile .messages (s.refreshLog host .output).session.world

theorem board_refreshLog_of_ok {s : Session σ} {id : LogId}
    (h : (s.refreshLog host id).result = .ok ()) :
    host.logFile id s.world ≠ .error .impossible
      ∧ (s.refreshLog host id).session.board = s.board.showLog id (host.logFile id s.world) := by
  unfold refreshLog at h ⊢
  dsimp only at h ⊢
  rcases hf : (host.logFile id s.world).failure? (host.logPath id) with _ | e
  · exact ⟨(LogFile.failure?_eq_none_iff _ _).1 hf, rfl⟩
  · rw [hf] at h
    cases h

theorem refreshLog_of_readable {s : Session σ} {id : LogId}
    (h : host.logFile id s.world ≠ .error .impossible) :
    (s.refreshLog host id).result = .ok () := by
  unfold refreshLog
  dsimp only
  rw [(LogFile.failure?_eq_none_iff _ _).2 h]

theorem refreshLogs_cases (s : Session σ) :
    ((s.refreshLog host .output).result = .ok ()
        ∧ s.refreshLogs host = (s.refreshLog host .output).session.refreshLog host .messages)
      ∨ ∃ e, (s.refreshLog host .output).result = .error e
        ∧ s.refreshLogs host = s.refreshLog host .output := by
  unfold refreshLogs Turn.andThen
  rcases h : (s.refreshLog host .output).result with e | u
  · exact .inr ⟨e, rfl, rfl⟩
  · exact .inl ⟨rfl, rfl⟩

/-- Where the logs could be shown, each was, and its file could be asked about. -/
theorem log_refreshLogs {s : Session σ} (h : (s.refreshLogs host).result = .ok ()) (id : LogId) :
    s.fileShown host id ≠ .error .impossible
      ∧ (s.refreshLogs host).session.board.log id
        = (s.board.log id).refreshed (s.fileShown host id) := by
  rcases refreshLogs_cases host s with ⟨hout, hr⟩ | ⟨e, he, hr⟩ <;> rw [hr] at h ⊢
  · obtain ⟨houtput, hboard⟩ := board_refreshLog_of_ok host hout
    obtain ⟨hmessages, hboard'⟩ := board_refreshLog_of_ok host h
    rw [hboard', hboard]
    cases id with
    | output =>
      rw [Board.log_showLog_of_ne _ (by decide), Board.log_showLog]
      exact ⟨houtput, rfl⟩
    | messages =>
      rw [Board.log_showLog, Board.log_showLog_of_ne _ (by decide)]
      exact ⟨hmessages, rfl⟩
  · rw [he] at h
    cases h

theorem refreshLogs_of_readable {s : Session σ}
    (h : ∀ id w, host.logFile id w ≠ .error .impossible) :
    (s.refreshLogs host).result = .ok () := by
  rcases refreshLogs_cases host s with ⟨-, hr⟩ | ⟨e, he, -⟩
  · rw [hr]
    exact refreshLog_of_readable host (h _ _)
  · rw [refreshLog_of_readable host (h _ _)] at he
    cases he

/-- The session whose logs are shown as a turn ends, if they are. -/
def settling (t : Turn σ Bool) : Option (Session σ) :=
  match t.result with
  | .ok true => some t.session
  | .error (.fault message) => some (t.session.showFault host message)
  | .ok false | .error _ => none

theorem settle_of_settling {t : Turn σ Bool} {r : Session σ} (h : settling host t = some r) :
    settle host t = goingOn (r.refreshLogs host)
      ∧ ∀ id, r.board.log id = t.session.board.log id := by
  obtain ⟨result, s⟩ := t
  rcases result with e | b
  · cases e <;> cases h
    exact ⟨rfl, fun _ => rfl⟩
  · cases b <;> cases h
    exact ⟨rfl, fun _ => rfl⟩

theorem settle_of_not_settling {t : Turn σ Bool} (h : settling host t = none) :
    settle host t = t ∧ t.result ≠ .ok true := by
  obtain ⟨result, s⟩ := t
  rcases result with e | b
  · cases e with
    | fault message => cases h
    | file _ | undefined _ _ | inverted _ | unsupported _ => exact ⟨rfl, by simp⟩
  · cases b
    · exact ⟨rfl, by simp⟩
    · cases h

/-- What a key does before the logs are shown, where they may be. -/
def acting (s : Session σ) (action : Action) : Turn σ Bool :=
  if action = .step then s.step host else ⟨.ok true, { s with board := s.board.look action }⟩

theorem act_of_ne_quit (s : Session σ) {action : Action} (h : action ≠ .quit) :
    s.act host action = settle host (s.acting host action) := by
  cases action <;> first | rfl | exact absurd rfl h

theorem log_acting (s : Session σ) (action : Action) (id : LogId) :
    (s.acting host action).session.board.log id
      = (s.board.log id).scroll (s.board.scrollOf action id) := by
  unfold acting
  split_ifs with h
  · rw [log_step, h, Board.scrollOf_eq_zero (by simp), LogState.scroll_zero]
  · exact s.board.log_look action id

/-- The session whose logs are shown as a key is taken, if they are: after the key was acted on and
a fault was noted. -/
def refreshing (s : Session σ) (key : String) : Option (Session σ) :=
  if s.board.overlay = none ∧ Action.ofKey key ≠ .quit then
    settling host (s.acting host (Action.ofKey key))
  else none

/-- The session whose logs are shown as a session begins, if they are. -/
def starting (s : Session σ) : Option (Session σ) :=
  settling host (goingOn (load host { s with board := s.board.resetStreams }))

theorem handleKey_of_ne_quit {s : Session σ} {key : String} (ho : s.board.overlay = none)
    (hq : Action.ofKey key ≠ .quit) :
    s.handleKey host key = settle host (s.acting host (Action.ofKey key)) := by
  simp only [handleKey, ho]
  exact act_of_ne_quit host s hq

theorem handleKey_of_refreshing {s r : Session σ} {key : String}
    (h : s.refreshing host key = some r) :
    s.board.overlay = none ∧ s.handleKey host key = goingOn (r.refreshLogs host)
      ∧ ∀ id, r.board.log id
        = (s.board.log id).scroll (s.board.scrollOf (Action.ofKey key) id) := by
  unfold refreshing at h
  split_ifs at h with hk
  obtain ⟨hsettle, hr⟩ := settle_of_settling host h
  exact ⟨hk.1, (handleKey_of_ne_quit host hk.1 hk.2).trans hsettle,
    fun id => (hr id).trans (log_acting host s _ id)⟩

theorem log_handleKey_of_not_refreshing {s : Session σ} {key : String}
    (h : s.refreshing host key = none) (id : LogId) :
    (s.handleKey host key).session.board.log id = s.board.log id := by
  unfold refreshing at h
  split_ifs at h with hk
  · obtain ⟨hsettle, hgo⟩ := settle_of_not_settling host h
    rw [handleKey_of_ne_quit host hk.1 hk.2, hsettle]
    -- The turn did not go on, so it was a step.
    unfold acting at hgo ⊢
    split_ifs at hgo ⊢
    · exact log_step host s id
    · exact absurd rfl hgo
  · unfold handleKey
    rcases ho : s.board.overlay with _ | text
    · have hq : Action.ofKey key = .quit := by
        by_contra hne
        exact hk ⟨ho, hne⟩
      simp only [hq]
      rfl
    · rfl

/-- A session that has begun was able to show the logs. -/
theorem start_of_ok {s : Session σ} {b : Bool} (h : (s.start host).result = .ok b) :
    ∃ r, s.starting host = some r ∧ (r.refreshLogs host).result = .ok ()
      ∧ s.start host = goingOn (r.refreshLogs host)
      ∧ ∀ id, r.board.log id = ⟨(s.board.log id).pane, {}⟩ := by
  rcases hr : s.starting host with _ | r
  · exfalso
    obtain ⟨hsettle, hgo⟩ := settle_of_not_settling host hr
    have hstart : s.start host = goingOn (load host { s with board := s.board.resetStreams }) :=
      hsettle
    rw [hstart] at h
    unfold goingOn at h hgo
    rcases hl : (load host { s with board := s.board.resetStreams }).result with e | u
    · rw [hl] at h
      cases h
    · rw [hl] at hgo
      exact hgo rfl
  · obtain ⟨hsettle, hlog⟩ := settle_of_settling host hr
    have hstart : s.start host = goingOn (r.refreshLogs host) := hsettle
    refine ⟨r, rfl, ?_, hstart, fun id => ?_⟩
    · rw [hstart] at h
      unfold goingOn at h
      rcases hl : (r.refreshLogs host).result with e | u
      · rw [hl] at h
        cases h
      · rfl
    · exact (hlog id).trans (log_load host { s with board := s.board.resetStreams } id)

theorem readable_of_start {paths : LogId → Path} (hat : host.LogsAt paths) {s : Session σ}
    {b : Bool} (h : (s.start host).result = .ok b) (id : LogId) (w : σ) :
    host.logFile id w ≠ .error .impossible := by
  obtain ⟨r, -, hr, -⟩ := start_of_ok host h
  intro hw
  apply (log_refreshLogs host hr id).1
  have hpath := (hat id w).1 hw
  cases id <;> exact (hat _ _).2 hpath

/-- The session whose logs are shown in an event, if they are. -/
def showing (s : Session σ) : Event σ → Option (Session σ)
  | .key name => s.refreshing host name
  | .draw | .outside _ => none

/-- By how many rows an event scrolls the pane of a log. -/
def scrolling (s : Session σ) (id : LogId) : Event σ → Int
  | .key name => if s.board.overlay = none then s.board.scrollOf (Action.ofKey name) id else 0
  | .draw | .outside _ => 0

/-- An event has the logs shown after the scrolling that it asks for, or leaves them as they are. -/
theorem log_afterEvent (hread : ∀ id w, host.logFile id w ≠ .error .impossible) (s : Session σ)
    (event : Event σ) (id : LogId) :
    (∃ r, s.showing host event = some r
        ∧ (s.afterEvent host event).board.log id
          = ((s.board.log id).scroll (s.scrolling id event)).refreshed (r.fileShown host id))
      ∨ s.showing host event = none
        ∧ (s.afterEvent host event).board.log id = s.board.log id := by
  cases event with
  | key name =>
    rcases h : s.refreshing host name with _ | r
    · exact .inr ⟨h, log_handleKey_of_not_refreshing host h id⟩
    · obtain ⟨ho, hkey, hlog⟩ := handleKey_of_refreshing host h
      refine .inl ⟨r, h, ?_⟩
      simp only [afterEvent, scrolling]
      rw [if_pos ho, hkey, ← hlog]
      exact (log_refreshLogs host (refreshLogs_of_readable host hread) id).2
  | draw => exact .inr ⟨rfl, s.board.log_compose id⟩
  | outside change => exact .inr ⟨rfl, rfl⟩

/-- The files that the pane of a log comes to show in some events. -/
def filesOver (id : LogId) (s : Session σ) : List (Event σ) → List LogFile
  | [] => []
  | event :: events =>
    ((s.showing host event).map (·.fileShown host id)).toList
      ++ filesOver id (s.afterEvent host event) events

/-- The files that the pane of a log has shown in a session begun and taken through events, the
last at the end. -/
def filesShown (id : LogId) (s : Session σ) (events : List (Event σ)) : List LogFile :=
  ((s.starting host).map (·.fileShown host id)).toList
    ++ filesOver host id (s.start host).session events

/-- By how many rows each of some events scrolls the pane of a log. -/
def scrollsOver (id : LogId) (s : Session σ) : List (Event σ) → List Int
  | [] => []
  | event :: events => s.scrolling id event :: scrollsOver id (s.afterEvent host event) events

/-- A log right after a session has begun, and the first of the files that it has shown. -/
theorem log_start {s : Session σ} {b : Bool} (h : (s.start host).result = .ok b) (id : LogId) :
    ∃ file, (s.start host).session.board.log id
        = (LogState.mk (s.board.log id).pane {}).refreshed file
      ∧ ∀ events, s.filesShown host id events
        = file :: (s.start host).session.filesOver host id events := by
  obtain ⟨r, hr, hok, hstart, hlog⟩ := start_of_ok host h
  refine ⟨r.fileShown host id, ?_, fun events => ?_⟩
  · rw [hstart, ← hlog]
    exact (log_refreshLogs host hok id).2
  · unfold filesShown
    rw [hr]
    rfl

/-- What holds of a log and the file that it shows holds to the end of some events if showing the
next file, after a scroll, preserves it. -/
theorem log_over_events (hread : ∀ id w, host.logFile id w ≠ .error .impossible) {id : LogId}
    {I : LogState → LogFile → Prop} {R : LogFile → LogFile → Prop} {D : Int → Prop}
    (hI : ∀ x file file' delta, I x file → R file file' → D delta →
      I ((x.scroll delta).refreshed file') file') :
    ∀ (events : List (Event σ)) (s : Session σ) (file : LogFile), I (s.board.log id) file →
      (file :: s.filesOver host id events).IsChain R →
      (∀ delta ∈ s.scrollsOver host id events, D delta) →
      ∃ last, (file :: s.filesOver host id events).getLast? = some last
        ∧ I ((events.foldl (afterEvent host) s).board.log id) last
  | [], s, file, h, _, _ => ⟨file, rfl, h⟩
  | event :: events, s, file, h, hchain, hscroll => by
    simp only [scrollsOver, List.mem_cons, forall_eq_or_imp] at hscroll
    obtain ⟨hd, hrest⟩ := hscroll
    simp only [filesOver, List.foldl_cons] at hchain ⊢
    rcases log_afterEvent host hread s event id with ⟨r, hr, hlog⟩ | ⟨hr, hlog⟩ <;>
      rw [hr] at hchain ⊢
    · rw [Option.map_some, Option.toList_some, List.singleton_append] at hchain ⊢
      obtain ⟨hnext, hchain⟩ := List.isChain_cons_cons.1 hchain
      rw [List.getLast?_cons_cons]
      refine log_over_events hread hI events _ _ ?_ hchain hrest
      rw [hlog]
      exact hI _ _ _ _ h hnext hd
    · refine log_over_events hread hI events _ file ?_ hchain hrest
      rwa [hlog]

theorem isChain_true (files : List LogFile) : files.IsChain fun _ _ => True :=
  (List.pairwise_of_forall fun _ _ => trivial).isChain

/-- The pane of a log shows the last file that it has shown, from the first column on and where it
was laid. -/
theorem showsFile_after {paths : LogId → Path} (hat : host.LogsAt paths) {s : Session σ} {b : Bool}
    (hs : (s.start host).result = .ok b) (id : LogId) (hcolumn : (s.board.log id).pane.column = 0)
    (events : List (Event σ)) :
    ∃ file, (s.filesShown host id events).getLast? = some file
      ∧ ((s.after host events).board.log id).ShowsFile file
      ∧ ((s.after host events).board.log id).pane.column = 0
      ∧ ((s.after host events).board.log id).pane.rect = (s.board.log id).pane.rect := by
  obtain ⟨first, hlog, hfiles⟩ := log_start host hs id
  rw [hfiles]
  refine log_over_events host (readable_of_start host hat hs)
    (I := fun x file => x.ShowsFile file ∧ x.pane.column = 0
      ∧ x.pane.rect = (s.board.log id).pane.rect) (D := fun _ => True)
    (fun x _ file' delta h _ _ => ?_) events _ first ?_ (isChain_true _) (fun _ _ => trivial)
  · have hscrolled : (x.scroll delta).pane.column = 0 := h.2.1
    exact ⟨LogState.showsFile_refreshed hscrolled file', h.2⟩
  · have hfirst : (LogState.mk (s.board.log id).pane {}).pane.column = 0 := hcolumn
    rw [hlog]
    exact ⟨LogState.showsFile_refreshed hfirst first, hfirst, rfl⟩

/-- Once a session has begun, whatever keys it takes and whatever becomes of the log files, each log
pane holds the lines of its file, as it was when the logs were last shown, from the known line
nearest to the pane's row on; it starts where the pane shows it to start, and all of it is seen. -/
theorem log_panes_show_last_file {paths : LogId → Path} (hat : host.LogsAt paths)
    (program : String) (width height : Int) (options : ViewOptions) (world : σ)
    (events : List (Event σ)) {b : Bool}
    (hs : ((fresh program width height options world).start host).result = .ok b) (id : LogId) :
    let s := (fresh program width height options world).after host events
    let p := s.board.panes id.pane
    ∃ file, ((fresh program width height options world).filesShown host id events).getLast?
        = some file
      ∧ p.origin = p.visibleStart
      ∧ p.visibleStart = (s.board.streams id).clamp p.row
      ∧ p.content = file.read p.origin p.innerHeight
      ∧ p.window = (file.read p.origin p.innerHeight).map (cutLine 0 p.innerWidth) := by
  obtain ⟨file, hlast, hshows, -⟩ := showsFile_after host hat hs id (by cases id <;> rfl) events
  exact ⟨file, hlast, hshows.origin, hshows.top, hshows.content, hshows.window⟩

end Session

theorem Files.guarded_ne_impossible {α : Type} (fs : Files) (place : Place) (access : Access)
    {work : Except FileError α} (h : work ≠ .error .impossible) :
    fs.guarded place access work ≠ .error .impossible := by
  unfold guarded
  rcases fs.refusal? place access with _ | e
  · exact h
  · simp

theorem Files.follow_ne_impossible (fs : Files) : ∀ (names : List LooseText) (place : Place),
    fs.follow place names ≠ .error .impossible
  | [], place => by simp [follow]
  | name :: names, place => by
    unfold follow
    rcases fs.entryAt? place with _ | _ | _
    · simp
    · simp
    · refine fs.guarded_ne_impossible _ _ ?_
      split_ifs
      · simp
      · exact follow_ne_impossible fs names _
      · exact follow_ne_impossible fs names _

theorem Files.followHere_ne_impossible (fs : Files) (names : List LooseText) :
    fs.followHere names ≠ .error .impossible := by
  unfold followHere
  split_ifs
  · rcases names with _ | ⟨name, names⟩
    · simp
    · dsimp only
      split_ifs
      · exact fs.follow_ne_impossible _ _
      · simp
  · exact fs.follow_ne_impossible _ _

theorem Files.readBytes_eq_impossible_iff (fs : Files) (p : Path) :
    fs.readBytes p = .error .impossible ↔ p.isImpossible = true := by
  have hplace : fs.place p = .error .impossible ↔ p.isImpossible = true := by
    unfold place
    split_ifs with h h'
    · simp [h]
    · simp [h]
    · simp [h, follow_ne_impossible]
    · simp [h, followHere_ne_impossible]
  have hlookup : fs.lookup p = .error .impossible ↔ fs.place p = .error .impossible := by
    unfold lookup
    rcases fs.place p with e | place
    · simp
    · refine iff_of_false (fs.guarded_ne_impossible _ _ ?_) (by simp)
      rcases fs.entryAt? place with _ | _ <;> simp
  rw [← hplace, ← hlookup]
  unfold readBytes
  rcases fs.lookup p with e | _ | _
  · simp
  all_goals rcases fs.refusalAt? p .read with _ | e <;> simp

namespace Scripted

theorem logsAt_host (outputLog messageLog : Path) : (host outputLog messageLog).LogsAt
    fun | .output => outputLog | .messages => messageLog := by
  intro id b
  cases id
  · exact b.files.readBytes_eq_impossible_iff outputLog
  · exact b.files.readBytes_eq_impossible_iff messageLog

/-- A machine that does nothing, with lines in the file of its output. -/
def printed (lines : List String) : Bench where
  files :=
    { workingPlace := []
      entries := [(["out.log"], .file (Utf8.encode (lines.flatMap fun s => s.toList ++ ['\n'])))] }
  outputLog := Path.ofString "out.log"
  messageLog := Path.ofString "msg.log"

def printedHost : Host Bench :=
  host (Path.ofString "out.log") (Path.ofString "msg.log")

/-- The machine with other lines in that file. -/
def reprint (lines : List String) (b : Bench) : Bench :=
  { b with files := (printed lines).files }

def printedSession (lines : List String) : Session Bench :=
  .fresh "p.s" 60 22 {} (printed lines)

/-- With the pane at the end of six lines, the file is written anew with four: the pane stays where
it was and shows what there is. -/
theorem log_pane_shows_shrunk_file :
    let s := (printedSession ["a", "b", "c", "d", "e", "f"]).after printedHost
      [.outside (reprint ["1", "2", "3", "4"]), .key "x"]
    let p := s.board.panes .output
    p.innerHeight = 4 ∧ s.board.streams .output = ⟨6⟩ ∧ p.visibleStart = 2
      ∧ p.window = ["3", "4"] := by
  intro s p
  have hbegun : ((printedSession ["a", "b", "c", "d", "e", "f"]).start printedHost).result
      = .ok true := by decide +kernel
  obtain ⟨file, hlast, horigin, htop, -, hwindow⟩ := Session.log_panes_show_last_file printedHost
    (logsAt_host _ _) "p.s" 60 22 {} (printed ["a", "b", "c", "d", "e", "f"])
    [.outside (reprint ["1", "2", "3", "4"]), .key "x"] hbegun .output
  have hfile : file = .ok (Utf8.encode "1\n2\n3\n4\n".toList) := by
    refine Option.some.inj (hlast.symm.trans ?_)
    decide +kernel
  have hstream : s.board.streams .output = ⟨6⟩ := by decide +kernel
  have hrow : p.row = 2 := by decide +kernel
  have hvisible : p.visibleStart = (s.board.streams .output).clamp p.row := htop
  have hseen : p.origin = p.visibleStart := horigin
  have hlines : p.window
      = (file.read p.origin p.innerHeight).map (cutLine 0 p.innerWidth) := hwindow
  rw [hstream, hrow] at hvisible
  refine ⟨by decide +kernel, hstream, hvisible, ?_⟩
  rw [hlines, hseen, hvisible, hfile]
  decide +kernel

end Scripted

end Stepboard
