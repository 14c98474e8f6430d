import Stepboard.Proofs.LogState
/-!
# The offset of a log stream is its high-water mark

A stream is polled and read while its file changes in any way. What a poll gives is what it adds to
the offset, which it only raises (`poll_eq`), so since the last reset the offset is the most lines
that a poll has counted and the total of what the polls gave (`highWater_watch`).
-/

namespace Stepboard

namespace LogStream

/-- What happens to a stream and its file, which may become any other or none. -/
inductive Event where
  | poll
  | reset
  | window (row height : Int)
  | change (file : LogFile)

/-- A stream and its file as it is now, with what the polls since the last reset counted and what
they gave. -/
structure Watch where
  stream : LogStream := {}
  file : LogFile
  counted : List Nat := []
  given : List Nat := []

/-- The watch after an event. -/
def Watch.step (w : Watch) : Event → Watch
  | .poll =>
    { w with
      stream := (w.stream.poll w.file).2
      counted := w.counted ++ [w.file.lineCount], given := w.given ++ [(w.stream.poll w.file).1] }
  | .reset => { w with stream := w.stream.reset, counted := [], given := [] }
  | .window _ _ => w
  | .change file => { w with file }

/-- A stream that begins with a file and is taken through events. -/
def watch (file : LogFile) (events : List Event) : Watch :=
  events.foldl Watch.step { file }

/-- The offset is the most lines counted since the last reset, and the total of what was given. -/
structure Watch.HighWater (w : Watch) : Prop where
  highest : w.stream.offset = w.counted.foldl max 0
  total : w.given.foldl (· + ·) 0 = w.stream.offset

theorem highWater_step {w : Watch} (h : w.HighWater) (e : Event) : (w.step e).HighWater := by
  cases e with
  | poll =>
    constructor
    · simp only [Watch.step, poll_eq, List.foldl_append, List.foldl_cons, List.foldl_nil, h.highest]
    · simp only [Watch.step, poll_eq, List.foldl_append, List.foldl_cons, List.foldl_nil, h.total]
      omega
  | reset => exact ⟨rfl, rfl⟩
  | window row height => exact h
  | change file => exact ⟨h.highest, h.total⟩

theorem highWater_watch (file : LogFile) (events : List Event) :
    (watch file events).HighWater := by
  unfold watch
  have hstart : ({ file } : Watch).HighWater := ⟨rfl, rfl⟩
  -- The induction goes through the events from any watch that has the invariant.
  generalize ({ file } : Watch) = w at hstart ⊢
  induction events generalizing w with
  | nil => exact hstart
  | cons e events ih => exact ih _ (highWater_step hstart e)

/-- However the file changes, the offset is the most lines that the polls since the last reset
counted, and these gave it in all; a poll gives what it adds and takes nothing away. Windows change
nothing and start at a known line, and one asked for at the last known line or below it has no
other, unless the file has more lines by then. -/
theorem offset_is_high_water (file : LogFile) (events : List Event) :
    let w := watch file events
    w.stream.offset = w.counted.foldl max 0
      ∧ w.given.foldl (· + ·) 0 = w.stream.offset
      ∧ w.stream.offset ≤ (w.stream.poll w.file).2.offset
      ∧ ((w.stream.poll w.file).1 : Int) = (w.stream.poll w.file).2.offset - w.stream.offset
      ∧ ∀ row height : Int,
          watch file (events ++ [.window row height]) = w
            ∧ (w.stream.window w.file row height).1 ≤ w.stream.offset - 1
            ∧ ((w.stream.offset : Int) - 1 ≤ row → w.file.lineCount ≤ w.stream.offset →
                (w.stream.window w.file row height).2.length ≤ 1) := by
  intro w
  have hw : w.HighWater := highWater_watch file events
  refine ⟨hw.highest, hw.total, ?_, ?_, fun row height => ⟨?_, ?_, fun hrow hcount => ?_⟩⟩
  · rw [poll_eq]
    exact Nat.le_max_left _ _
  · rw [poll_eq]
    simp only
    omega
  · rw [watch, List.foldl_append]
    rfl
  · exact Nat.min_le_right _ _
  · have hstart : w.stream.clamp row = w.stream.offset - 1 := by
      unfold clamp
      omega
    have hlength : (w.stream.window w.file row height).2.length
        = min height.toNat (w.file.lineCount - w.stream.clamp row) :=
      w.file.length_read (w.stream.clamp row) height
    omega

/-- A file of so many empty lines. -/
def blankLines (n : Nat) : LogFile :=
  .ok (List.replicate n 0x0A)

/-- A file that is written shorter, taken away, written longer than ever, and cut again. -/
def rewritten : List Event :=
  [.poll, .change (blankLines 1), .poll, .reset, .poll, .change (.error .missing), .poll,
    .change (blankLines 5), .window 2 2, .poll, .change (blankLines 4)]

theorem offset_of_rewritten :
    let w := watch (blankLines 3) rewritten
    w.counted = [1, 0, 5] ∧ w.given = [1, 0, 4] ∧ w.stream.offset = 5 ∧ w.file.lineCount ≤ 5
      ∧ (w.stream.window w.file 7 3).2.length ≤ 1 := by
  intro w
  obtain ⟨hhighest, -, -, -, hwindow⟩ := offset_is_high_water (blankLines 3) rewritten
  have hoffset : w.stream.offset = 5 := hhighest.trans (by decide)
  have hcount : w.file.lineCount ≤ 5 := by decide
  refine ⟨by decide, by decide, hoffset, hcount, (hwindow 7 3).2.2 ?_ ?_⟩
  · rw [hoffset]
    decide
  · rw [hoffset]
    exact hcount

end LogStream

end Stepboard
