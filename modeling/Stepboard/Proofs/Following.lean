import Mathlib.Tactic.SplitIfs
import Stepboard.Screen.Pane
/-!
# Following a line

A pane follows a line no farther than it has to. A line in view leaves it where it is
(`follow_of_inView`), a line above becomes its first, and for a line below it goes on by a block, so
that the lines that come next are in view already (`inView_follow_below`).
-/

namespace Stepboard.Pane

/-- A line is among those shown. -/
def InView (p : Pane) (line : Int) : Prop :=
  p.visibleStart ≤ line ∧ line < p.visibleStart + p.innerHeight

variable {p : Pane}

theorem follow_row (p : Pane) (line : Int) :
    p.follow line = { p with row := (p.follow line).row } := by
  unfold follow
  dsimp only
  split_ifs <;> rfl

theorem follow_of_innerHeight (h : p.innerHeight = 0) (line : Int) : p.follow line = p := by
  simp [follow, h]

theorem follow_of_inView {line : Int} (h : p.InView line) : p.follow line = p := by
  obtain ⟨habove, hbelow⟩ := h
  unfold follow
  dsimp only
  rw [if_neg (by omega : ¬ line < p.visibleStart),
    if_neg (by omega : ¬ p.visibleStart + p.innerHeight ≤ line), ite_self]

theorem innerHeight_follow (p : Pane) (line : Int) :
    (p.follow line).innerHeight = p.innerHeight := by
  rw [follow_row]
  rfl

theorem visibleStart_eq (horigin : p.origin = 0) :
    p.visibleStart = min p.row.toNat (p.content.length - 1) := by
  rw [visibleStart, horigin]
  omega

theorem visibleStart_of_row (horigin : p.origin = 0) (row : Int) :
    { p with row }.visibleStart = min row.toNat (p.content.length - 1) :=
  visibleStart_eq horigin

section Origin

variable (horigin : p.origin = 0) {i : Nat} (hi : i < p.content.length)

include horigin hi

theorem inView_follow (h : 0 < p.innerHeight) : (p.follow i).InView i := by
  have hstart := visibleStart_of_row horigin
  rw [InView, innerHeight_follow]
  unfold follow
  dsimp only
  rw [if_neg (by omega : ¬ p.innerHeight = 0)]
  split_ifs with habove hbelow
  · rw [hstart]
    omega
  · rw [hstart]
    simp only [followStep]
    omega
  · omega

/-- A pane that was moved down has room for the rest of the block. -/
theorem inView_follow_below (h : p.row < (p.follow i).row) {j : Nat}
    (hj : j < min followStep p.innerHeight) : (p.follow i).InView (i + j : Nat) := by
  have hstart := visibleStart_eq horigin
  have hstart' := visibleStart_of_row horigin
  rw [InView, innerHeight_follow]
  revert h
  unfold follow
  dsimp only
  split_ifs with hheight habove hbelow
  · intro h
    omega
  · intro h
    dsimp only at h
    omega
  · intro h
    rw [hstart']
    simp only [followStep] at hj ⊢
    omega
  · intro h
    omega

end Origin

theorem window_getElem? {i : Nat} (horigin : p.origin = 0) (h : p.InView i) :
    p.window[i - p.visibleStart]? = p.content[i]?.map (cutLine p.column.toNat p.innerWidth) := by
  obtain ⟨habove, hbelow⟩ := h
  rw [window, horigin, List.getElem?_map, List.getElem?_take_of_lt (by omega), List.getElem?_drop]
  congr 2
  omega

/-- Following changes nothing but the row, and nothing at all where there is no line to show in. In
a pane of all the content, a line that is followed is then shown; if it was in view the pane stays
where it is, and so it does if the line is followed again. A pane that had to go down stays for the
lines after that one, up to a block of five or as many as it shows. -/
theorem follow_shows_line (p : Pane) :
    (∀ line : Int, p.follow line = { p with row := (p.follow line).row })
      ∧ (p.innerHeight = 0 → ∀ line : Int, p.follow line = p)
      ∧ (p.origin = 0 → 0 < p.innerHeight → ∀ (i : Nat) (hi : i < p.content.length),
        let q := p.follow i
        q.InView i
          ∧ q.window[i - q.visibleStart]?
            = some (cutLine p.column.toNat p.innerWidth p.content[i])
          ∧ (p.InView i → q.row = p.row)
          ∧ q.follow i = q
          ∧ (p.row < q.row → ∀ j : Nat, j < min 5 p.innerHeight →
            q.follow (i + j : Nat) = q)) := by
  refine ⟨follow_row p, follow_of_innerHeight, ?_⟩
  intro horigin h i hi q
  have hview : q.InView i := inView_follow horigin hi h
  refine ⟨hview, ?_, fun hin => ?_, follow_of_inView hview, fun hdown j hj => ?_⟩
  · have hrow : q = { p with row := q.row } := follow_row p i
    rw [window_getElem? (by rw [hrow]; exact horigin) hview, hrow]
    simp [innerWidth, hi]
  · rw [show q = p from follow_of_inView hin]
  · exact follow_of_inView (inView_follow_below horigin hi hdown hj)

/-- Forty lines in a pane that shows ten, scrolled past its top. -/
def fortyLines : Pane :=
  { ofRect "Instructions" ⟨3, 0, 12, 12⟩ with row := -4, content := List.replicate 40 "nop" }

/-- The pane goes down to its sixteenth line, and has four more in view. -/
theorem follow_fifteen_of_forty :
    (fortyLines.follow 15).row = 10
      ∧ (fortyLines.follow 15).InView 15
      ∧ ∀ j : Nat, j < 5 → (fortyLines.follow 15).follow (15 + j : Nat) = fortyLines.follow 15 := by
  obtain ⟨hview, -, -, -, hnext⟩ :=
    (follow_shows_line fortyLines).2.2 rfl (by decide) 15 (by decide)
  exact ⟨rfl, hview, hnext (by decide)⟩

end Stepboard.Pane
