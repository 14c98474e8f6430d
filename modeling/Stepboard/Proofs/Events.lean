import Stepboard.Proofs.Face
import Stepboard.Session
/-!
# What happens to a session

Once begun, a session takes keys and draws the screen, and the world may change around it. A step
key that finds no fault box up is the only key that asks the simulator for anything
(`idle_handleKey`): any other leaves what the board tells of it, the steps and the calls as they
were, and touches the world by its notes alone.
-/

namespace Stepboard

/-- What happens to a session: it takes a key, draws the screen, or the world changes around it. -/
inductive Event (σ : Type) where
  | key (name : String)
  | draw
  | outside (change : σ → σ)

namespace Session

variable {σ : Type}

/-- A session that has shown nothing yet. -/
def fresh (program : String) (width height : Int) (options : ViewOptions) (world : σ) : Session σ :=
  { board := .blank program width height options, world }

variable (host : Host σ)

/-- The session after an event, whatever a key's turn came to. -/
def afterEvent (s : Session σ) : Event σ → Session σ
  | .key name => (s.handleKey host name).session
  | .draw => s.compose.1
  | .outside change => { s with world := change s.world }

/-- A session begun and taken through events. -/
def after (s : Session σ) (events : List (Event σ)) : Session σ :=
  events.foldl (afterEvent host) (s.start host).session

/-- Whether a key is taken as a step: it is a step key, and no fault box is up to take it. -/
def Steps (s : Session σ) (key : String) : Prop :=
  s.board.overlay = none ∧ Action.ofKey key = .step

instance (s : Session σ) (key : String) : Decidable (s.Steps key) :=
  inferInstanceAs (Decidable (_ ∧ _))

/-- From `s` to `s'` the simulator was asked for nothing. -/
structure Idle (s s' : Session σ) : Prop where
  face : s'.board.face = s.board.face
  options : s'.board.options = s.board.options
  listing : s'.board.listing = s.board.listing
  steps : s'.board.steps = s.board.steps
  exitMessage : s'.board.exitMessage = s.board.exitMessage
  calls : s'.calls = s.calls
  noted : ∃ records, s'.notes = s.notes ++ records ∧
    s'.world = records.foldl (fun w r => host.record r w) s.world

namespace Idle

variable {host}

theorem refl (s : Session σ) : Idle host s s :=
  ⟨rfl, rfl, rfl, rfl, rfl, rfl, [], by simp, rfl⟩

theorem trans {s s' s'' : Session σ} (h : Idle host s s') (h' : Idle host s' s'') :
    Idle host s s'' := by
  obtain ⟨r, hn, hw⟩ := h.noted
  obtain ⟨r', hn', hw'⟩ := h'.noted
  exact ⟨h'.face.trans h.face, h'.options.trans h.options, h'.listing.trans h.listing,
    h'.steps.trans h.steps, h'.exitMessage.trans h.exitMessage, h'.calls.trans h.calls,
    r ++ r', by rw [hn', hn, List.append_assoc], by rw [hw', hw, List.foldl_append]⟩

end Idle

theorem idle_board {s : Session σ} {b : Board} (hf : b.face = s.board.face)
    (ho : b.options = s.board.options) (hl : b.listing = s.board.listing)
    (hs : b.steps = s.board.steps) (he : b.exitMessage = s.board.exitMessage) :
    Idle host s { s with board := b } :=
  ⟨hf, ho, hl, hs, he, rfl, [], by simp, rfl⟩

theorem idle_note (s : Session σ) (r : Record) : Idle host s (s.note host r) :=
  ⟨rfl, rfl, rfl, rfl, rfl, rfl, [r], rfl, rfl⟩

theorem idle_noteAll : ∀ (records : List Record) (s : Session σ),
    Idle host s (s.noteAll host records)
  | [], s => .refl s
  | r :: rest, s => (idle_note host s r).trans (idle_noteAll rest (s.note host r))

theorem board_noteAll : ∀ (records : List Record) (s : Session σ),
    (s.noteAll host records).board = s.board
  | [], _ => rfl
  | r :: rest, s => board_noteAll rest (s.note host r)

theorem idle_showFault (s : Session σ) (message : String) :
    Idle host s (s.showFault host message) :=
  (idle_note host s _).trans (idle_board host rfl rfl rfl rfl rfl)

theorem overlay_showFault (s : Session σ) (message : String) :
    ∃ text, (s.showFault host message).board.overlay = some text ∧ text ≠ "" := by
  refine ⟨_, rfl, ?_⟩
  split_ifs with h
  · simp [unnamedFault]
  · simpa using h

theorem idle_refreshLog (log : LogId) (s : Session σ) :
    Idle host s (s.refreshLog host log).session := by
  simp only [refreshLog]
  split
  · exact .refl s
  · refine (idle_noteAll host _ s).trans (idle_board host ?_ ?_ ?_ ?_ ?_) <;> rw [board_noteAll]
    · exact s.board.face_showLog log _
    all_goals rfl

theorem idle_refreshLogs (s : Session σ) : Idle host s (s.refreshLogs host).session := by
  simp only [refreshLogs, Turn.andThen]
  split
  · exact (idle_refreshLog host _ s).trans (idle_refreshLog host _ _)
  · exact idle_refreshLog host _ s

/-- Showing the logs changes the log panes, and leaves a fault box as it is. -/
theorem board_refreshLog (log : LogId) (s : Session σ) :
    (∀ id, id ≠ .output ∧ id ≠ .log →
        (s.refreshLog host log).session.board.panes id = s.board.panes id)
      ∧ (s.refreshLog host log).session.board.overlay = s.board.overlay := by
  simp only [refreshLog]
  split
  · exact ⟨fun _ _ => rfl, rfl⟩
  · exact ⟨fun id h => s.board.panes_showLog log _ h, rfl⟩

theorem board_refreshLogs (s : Session σ) :
    (∀ id, id ≠ .output ∧ id ≠ .log →
        (s.refreshLogs host).session.board.panes id = s.board.panes id)
      ∧ (s.refreshLogs host).session.board.overlay = s.board.overlay := by
  obtain ⟨hp, ho⟩ := board_refreshLog host .output s
  simp only [refreshLogs, Turn.andThen]
  split
  · obtain ⟨hp', ho'⟩ := board_refreshLog host .messages (s.refreshLog host .output).session
    exact ⟨fun id h => (hp' id h).trans (hp id h), ho'.trans ho⟩
  · exact ⟨hp, ho⟩

theorem idle_settle (t : Turn σ Bool) : Idle host t.session (settle host t).session := by
  simp only [settle]
  split
  · exact idle_refreshLogs host _
  · exact (idle_showFault host _ _).trans (idle_refreshLogs host _)
  · exact .refl _
  · exact .refl _

theorem panes_settle (t : Turn σ Bool) {id : PaneId} (h : id ≠ .output ∧ id ≠ .log) :
    (settle host t).session.board.panes id = t.session.board.panes id := by
  simp only [settle]
  split
  · exact (board_refreshLogs host _).1 id h
  · exact (board_refreshLogs host (t.session.showFault host _)).1 id h
  · rfl
  · rfl

/-- A turn after which the session goes on shows a fault if it met one, and none of its own. -/
theorem overlay_settle {t : Turn σ Bool} (h : (settle host t).result = .ok true) :
    (t.result = .ok true ∧ (settle host t).session.board.overlay = t.session.board.overlay)
      ∨ ∃ message text, t.result = .error (.fault message)
        ∧ (settle host t).session.board.overlay = some text ∧ text ≠ "" := by
  unfold settle at h ⊢
  split
  · rename_i ht
    exact .inl ⟨ht, (board_refreshLogs host _).2⟩
  · rename_i message ht
    obtain ⟨text, ho, hne⟩ := overlay_showFault host t.session message
    exact .inr ⟨message, text, ht, (board_refreshLogs host _).2.trans ho, hne⟩
  · rename_i ht
    simp only [ht] at h
    cases h
  · rename_i ht
    simp only [ht] at h
    cases h

theorem idle_look (s : Session σ) (action : Action) :
    Idle host s { s with board := s.board.look action } := by
  refine idle_board host (s.board.face_look action) ?_ ?_ ?_ ?_ <;> cases action <;> rfl

theorem idle_compose (s : Session σ) : Idle host s s.compose.1 := by
  simp only [compose, Board.compose, Board.drawTitles]
  split <;> exact idle_board host rfl rfl rfl rfl rfl

theorem act_of_ne_step (s : Session σ) {action : Action} (h : action ≠ .step) :
    s.act host action = if action = .quit then ⟨.ok false, s⟩
      else settle host ⟨.ok true, { s with board := s.board.look action }⟩ := by
  cases action <;> first | rfl | exact absurd rfl h

/-- A key that is not taken as a step asks the simulator for nothing. -/
theorem idle_handleKey {s : Session σ} {key : String} (h : ¬ s.Steps key) :
    Idle host s (s.handleKey host key).session := by
  simp only [handleKey]
  split
  · exact idle_board host rfl rfl rfl rfl rfl
  · rename_i up
    rw [act_of_ne_step host s fun hk => h ⟨up, hk⟩]
    split_ifs
    · exact .refl s
    · exact (idle_look host s (Action.ofKey key)).trans (idle_settle host ⟨.ok true, _⟩)

theorem handleKey_of_steps {s : Session σ} {key : String} (h : s.Steps key) :
    s.handleKey host key = settle host (s.step host) := by
  simp only [handleKey, h.1, h.2, act]

end Session

end Stepboard
