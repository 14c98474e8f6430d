import Mathlib.Data.Int.Bitwise
import Mathlib.Data.List.Induction
import Stepboard.Key.Terminal
/-!
# The terminal is put back

However often the mode for reading keys is entered and left, and whatever changes the local modes in
between, entering clears three bits and sets two characters and nothing else (`raw_spec`), and the
first time it is left the attributes are those from just before it was last entered. Leaving again
does nothing (`terminal_is_put_back`).
-/

namespace Stepboard

namespace TerminalAttributes

theorem testBit_zero (n : Int) : testBit n 0 = decide (n % 2 = 1) := by
  simp [testBit, Int.pow]

theorem pow_two_succ (i : Nat) : Int.pow 2 (i + 1) = 2 * Int.pow 2 i :=
  (Int.pow_succ 2 i).trans (Int.mul_comm ..)

theorem testBit_succ (n : Int) (i : Nat) : testBit n (i + 1) = testBit (n / 2) i := by
  simp only [testBit, pow_two_succ, Int.ediv_ediv_of_nonneg (by decide : (0 : Int) ≤ 2)]

/-- The bits are those of the two's complement. -/
theorem testBit_eq (n : Int) (i : Nat) : testBit n i = n.testBit i := by
  induction i generalizing n with
  | zero =>
    rw [testBit_zero, ← Int.bit_decomp n, Int.testBit_bit_zero, Int.bit_val]
    cases n.bodd <;> simp
  | succ i ih =>
    rw [testBit_succ, ih, ← Int.div2_val]
    conv_rhs => rw [← Int.bit_decomp n, Int.testBit_bit_succ]

theorem clearBit_zero (n : Int) : clearBit n 0 = 2 * (n / 2) := by
  have hpow : Int.pow 2 0 = 1 := rfl
  simp only [clearBit, testBit_zero, decide_eq_true_eq, hpow]
  split_ifs <;> omega

theorem clearBit_succ (n : Int) (b : Nat) :
    clearBit n (b + 1) = 2 * clearBit (n / 2) b + n % 2 := by
  simp only [clearBit, testBit_succ, pow_two_succ]
  split_ifs <;> omega

theorem testBit_clearBit (n : Int) (b i : Nat) :
    (clearBit n b).testBit i = (n.testBit i && i != b) := by
  simp only [← testBit_eq]
  induction b generalizing n i with
  | zero =>
    rw [clearBit_zero]
    cases i with
    | zero => simp [testBit_zero]
    | succ i => simp [testBit_succ]
  | succ b ih =>
    rw [clearBit_succ]
    cases i with
    | zero =>
      have hlow : (2 * clearBit (n / 2) b + n % 2) % 2 = n % 2 := by omega
      simp [testBit_zero, hlow]
    | succ i =>
      have hhigh : (2 * clearBit (n / 2) b + n % 2) / 2 = clearBit (n / 2) b := by omega
      simp [testBit_succ, hhigh, ih]

/-- The bits of the local modes that are cleared while keys are read one at a time. -/
def lineBits : List Nat := [signalsBit, canonicalBit, echoBit]

/-- Attributes that differ from others as much as reading keys one at a time asks for. -/
structure RawOf (new old : TerminalAttributes) : Prop where
  others : new = { old with localModes := new.localModes, characters := new.characters }
  bits (i : Nat) : new.localModes.testBit i = true ↔
    old.localModes.testBit i = true ∧ i ∉ lineBits
  minimum : new.characters[minimumIndex]? = some 1
  timeout : new.characters[timeoutIndex]? = some 0
  characters (i : Nat) : i ≠ minimumIndex → i ≠ timeoutIndex →
    new.characters[i]? = old.characters[i]?

theorem raw_spec {a : TerminalAttributes} (h : minimumIndex < a.characters.length) :
    a.raw.RawOf a where
  others := rfl
  bits i := by
    simp only [raw, testBit_clearBit, lineBits, Bool.and_eq_true, bne_iff_ne, List.mem_cons,
      List.not_mem_nil, or_false]
    tauto
  minimum := by
    rw [raw, List.getElem?_set_ne (by decide), List.getElem?_set_self h]
  timeout := by
    have ht : timeoutIndex < (a.characters.set minimumIndex 1).length := by
      rw [List.length_set]
      exact Nat.lt_of_succ_lt h
    rw [raw, List.getElem?_set_self ht]
  characters i hm ht := by
    rw [raw, List.getElem?_set_ne ht.symm, List.getElem?_set_ne hm.symm]

end TerminalAttributes

open TerminalAttributes (minimumIndex RawOf raw_spec)

namespace Terminal

/-- What happens to a terminal. -/
inductive Event where
  | enter
  | leave
  | disturb (modes : Int)
  deriving DecidableEq, Repr

def step (t : Terminal) : Event → Terminal
  | .enter => t.enter
  | .leave => t.leave
  | .disturb modes => t.disturb modes

/-- A terminal after some events. -/
def after (t : Terminal) (events : List Event) : Terminal :=
  events.foldl step t

/-- A terminal that was not changed yet. -/
def untouched (a : TerminalAttributes) : Terminal where
  attributes := a

variable (t : Terminal)

theorem after_append (events others : List Event) :
    t.after (events ++ others) = (t.after events).after others :=
  List.foldl_append

theorem changes_set (a : TerminalAttributes) : (t.set a).changes = t.changes ++ [a] := by
  have hne : t.replaced ++ [t.attributes] ≠ [] := by simp
  rw [changes, set, List.tail_append_of_ne_nil hne]
  rfl

theorem leave_of_saved {a : TerminalAttributes} (h : t.saved = some a) :
    t.leave.attributes = a ∧ t.leave.changes = t.changes ++ [a] := by
  rw [leave, h]
  exact ⟨rfl, changes_set t a⟩

theorem leave_of_not_saved (h : t.saved = none) : t.leave = t := by
  rw [leave, h]

theorem saved_leave : t.leave.saved = none := by
  unfold leave
  split
  · rfl
  · assumption

/-- The attributes in force and those kept have the two characters that are set. -/
def Roomy : Prop :=
  ∀ a ∈ t.attributes :: t.saved.toList, minimumIndex < a.characters.length

variable {t}

theorem roomy_step (h : t.Roomy) (e : Event) : (t.step e).Roomy := by
  have hnow : minimumIndex < t.attributes.characters.length := h _ (by simp)
  cases e with
  | enter =>
    intro a ha
    have hcases : a = t.attributes.raw ∨ a = t.attributes := by
      simpa [step, enter, set] using ha
    rcases hcases with rfl | rfl
    · simpa [TerminalAttributes.raw] using hnow
    · exact hnow
  | leave =>
    rcases hs : t.saved with _ | kept
    · rw [step, leave_of_not_saved t hs]
      exact h
    · intro a ha
      rw [step, saved_leave, (leave_of_saved t hs).1] at ha
      exact h a (by simpa [hs] using Or.inr ha)
  | disturb modes =>
    intro a ha
    have hcases : a = { t.attributes with localModes := modes } ∨ t.saved = some a := by
      simpa [step, disturb, eq_comm] using ha
    rcases hcases with rfl | hs
    · exact hnow
    · exact h a (by simp [hs])

theorem roomy_after (h : t.Roomy) (events : List Event) : (t.after events).Roomy := by
  induction events generalizing t with
  | nil => exact h
  | cons e events ih => exact ih (roomy_step h e)

theorem saved_after_disturbed {events : List Event}
    (h : ∀ e ∈ events, ∃ modes, e = .disturb modes) : (t.after events).saved = t.saved := by
  induction events generalizing t with
  | nil => rfl
  | cons e events ih =>
    obtain ⟨modes, rfl⟩ := h e (by simp)
    exact ih (t := t.disturb modes) fun e he => h e (by simp [he])

/-- Nothing is kept once every time the mode was entered it was left again. -/
theorem saved_after_left (hs : t.saved = none) {events : List Event}
    (h : ∀ earlier later, events = earlier ++ .enter :: later → .leave ∈ later) :
    (t.after events).saved = none := by
  -- Only the last event matters, unless it is a disturbance, so the induction is at the end.
  induction events using List.reverseRecOn with
  | nil => exact hs
  | append_singleton events e ih =>
    rw [after_append]
    cases e with
    | enter => exact absurd (h events [] rfl) List.not_mem_nil
    | leave => exact saved_leave _
    | disturb modes =>
      refine ih fun earlier later hsplit => ?_
      have hmem := h earlier (later ++ [.disturb modes]) (by simp [hsplit])
      simpa using hmem

/-- Whatever happened to a terminal before, entering changes its attributes once, to those for
reading keys one at a time. Leaving changes them once, to those from just before it was last
entered, if it was not left since then, and does nothing at all if it was, or was never entered. -/
theorem terminal_is_put_back (a : TerminalAttributes) (ha : minimumIndex < a.characters.length)
    (events : List Event) :
    let t := (untouched a).after events
    (t.enter.attributes.RawOf t.attributes ∧ t.enter.changes = t.changes ++ [t.enter.attributes])
      ∧ (∀ earlier later, events = earlier ++ .enter :: later →
          (∀ e ∈ later, ∃ modes, e = .disturb modes) →
          t.leave.attributes = ((untouched a).after earlier).attributes
            ∧ t.leave.changes = t.changes ++ [t.leave.attributes])
      ∧ ((∀ earlier later, events = earlier ++ .enter :: later → .leave ∈ later) →
          t.leave = t) := by
  intro t
  have hroomy : t.Roomy := roomy_after (by simpa [Roomy, untouched] using ha) events
  refine ⟨⟨raw_spec (hroomy _ (by simp)), changes_set _ _⟩, ?_, fun hleft => ?_⟩
  · rintro earlier later rfl hlater
    have hsaved : t.saved = some ((untouched a).after earlier).attributes := by
      rw [show t = _ from after_append ..]
      exact saved_after_disturbed (t := ((untouched a).after earlier).enter) hlater
    obtain ⟨hattributes, hchanges⟩ := leave_of_saved t hsaved
    exact ⟨hattributes, by rw [hchanges, hattributes]⟩
  · exact leave_of_not_saved t (saved_after_left rfl hleft)

/-- The attributes of a terminal that edits lines and echoes them. -/
def lineEditing : TerminalAttributes where
  inputModes := 17664
  outputModes := 5
  controlModes := 191
  localModes := 35387
  inputSpeed := 15
  outputSpeed := 15
  characters := [3, 28, 127, 21, 4, 7, 9, 0]

/-- The mode is entered twice, the local modes are changed after each time, and the first of two
leaves puts back what held between the changes. -/
theorem line_editing_is_put_back :
    let t := (untouched lineEditing).after [.enter, .disturb 11, .enter, .disturb (-1)]
    minimumIndex < lineEditing.characters.length
      ∧ t.leave.attributes = { lineEditing.raw with localModes := 11 }
      ∧ t.leave.changes = t.changes ++ [t.leave.attributes]
      ∧ t.leave.leave = t.leave := by
  intro t
  obtain ⟨-, hfirst, -⟩ := terminal_is_put_back lineEditing (by decide)
    [.enter, .disturb 11, .enter, .disturb (-1)]
  obtain ⟨-, -, hsecond⟩ := terminal_is_put_back lineEditing (by decide)
    [.enter, .disturb 11, .enter, .disturb (-1), .leave]
  obtain ⟨hattributes, hchanges⟩ := hfirst [.enter, .disturb 11] [.disturb (-1)] rfl (by simp)
  refine ⟨by decide, hattributes, hchanges, hsecond fun earlier later h => ?_⟩
  rcases List.eq_nil_or_concat later with rfl | ⟨later, e, rfl⟩
  · have hlast := congrArg List.getLast? h
    simp at hlast
  · have hsplit : [Event.enter, .disturb 11, .enter, .disturb (-1)] ++ [.leave]
        = (earlier ++ .enter :: later) ++ [e] := by simpa using h
    have he := List.singleton_inj.mp (List.append_inj' hsplit rfl).2
    simp [he]

end Terminal

end Stepboard
