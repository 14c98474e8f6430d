import Stepboard.Proofs.Tiling
/-!
# The rows of the grid

Where the panes of the grid stand: the members of a row have its top edge and its height, go from
left to right, and take the width together (`placeRow_spec`, `widths_placeRow`). All rows of a
screen but the last have an equal part of the height of its body (`height_of_mem_dropLast`), so on a
low screen these have no line, and all rows have one top edge (`top_of_flat`).
-/

namespace Stepboard

section Rows

theorem placeRow_spec {y height : Nat} : ∀ {x : Nat} {panes : List (PaneId × Nat)},
    ∀ p ∈ placeRow y height x panes, p.2.y = y ∧ p.2.height = height ∧ x ≤ p.2.x
      ∧ p.2.right ≤ x + (panes.map Prod.snd).sum
  | x, (id, width) :: panes, p, hp => by
    rw [List.map_cons, List.sum_cons]
    rcases List.mem_cons.1 hp with rfl | hp
    · refine ⟨rfl, rfl, le_rfl, ?_⟩
      unfold Rect.right
      dsimp only
      omega
    · obtain ⟨hy, hheight, hx, hright⟩ := placeRow_spec p hp
      exact ⟨hy, hheight, by omega, by omega⟩

theorem pairwise_placeRow (y height : Nat) : ∀ (x : Nat) (panes : List (PaneId × Nat)),
    (placeRow y height x panes).Pairwise fun p q => p.2.x ≤ q.2.x
  | _, [] => .nil
  | x, (id, width) :: panes => by
    refine List.pairwise_cons.2 ⟨fun p hp => ?_, pairwise_placeRow y height (x + width) panes⟩
    have hx := (placeRow_spec p hp).2.2.1
    dsimp only
    omega

theorem widths_placeRow (y height : Nat) : ∀ (x : Nat) (panes : List (PaneId × Nat)),
    (placeRow y height x panes).map (·.2.width) = panes.map Prod.snd
  | _, [] => rfl
  | x, (id, width) :: panes => by
    rw [placeRow, List.map_cons, List.map_cons, widths_placeRow y height (x + width) panes]

theorem placeRow_ne_nil (width y height : Nat) {panes : List (PaneId × Nat)} (h : panes ≠ []) :
    placeRow y height 0 (spread width panes) ≠ [] := by
  intro hnil
  have hwidths := widths_placeRow y height 0 (spread width panes)
  have hlength := length_shares width (mt List.map_eq_nil_iff.1 h : panes.map Prod.snd ≠ [])
  rw [hnil, map_snd_spread h, List.map_nil] at hwidths
  rw [← hwidths, List.length_map, List.length_nil] at hlength
  exact h (List.eq_nil_of_length_eq_zero hlength.symm)

theorem placeRows_spec {width : Nat} : ∀ {y : Nat} {rows : List (List (PaneId × Nat) × Nat)},
    ∀ p ∈ placeRows width y rows, y ≤ p.2.y
  | y, (panes, height) :: rows, p, hp => by
    rcases List.mem_append.1 hp with hp | hp
    · exact (placeRow_spec p hp).1.ge
    · have hy := placeRows_spec p hp
      omega

theorem height_mem_placeRows (width : Nat) : ∀ (y : Nat) {rows : List (List (PaneId × Nat) × Nat)}
    {r : List (PaneId × Nat) × Nat}, r ∈ rows → r.1 ≠ [] →
      ∃ p ∈ placeRows width y rows, p.2.height = r.2
  | y, (panes, height) :: rows, r, hr, hne => by
    rcases List.mem_cons.1 hr with rfl | hr
    · obtain ⟨p, hp⟩ := List.exists_mem_of_ne_nil _ (placeRow_ne_nil width y height hne)
      exact ⟨p, List.mem_append_left _ hp, (placeRow_spec p hp).2.1⟩
    · obtain ⟨p, hp, hheight⟩ := height_mem_placeRows width (y + height) hr hne
      exact ⟨p, List.mem_append_right _ hp, hheight⟩

variable {width : Nat}

theorem mem_placeRows {p : PaneId × Rect} : ∀ {y : Nat} {rows : List (List (PaneId × Nat) × Nat)},
    (∀ r ∈ rows, r.1 ≠ []) → p ∈ placeRows width y rows →
      p.2.right ≤ width ∧ ∃ r ∈ rows, p.2.height = r.2
  | y, (panes, height) :: rows, hne, hp => by
    obtain ⟨hpanes, hrows⟩ := List.forall_mem_cons.1 hne
    rw [placeRows_cons, List.mem_append] at hp
    rcases hp with hp | hp
    · obtain ⟨-, hheight, -, hright⟩ := placeRow_spec p hp
      rw [sum_spread hpanes, Nat.zero_add] at hright
      exact ⟨hright, (panes, height), List.mem_cons_self, hheight⟩
    · obtain ⟨hright, r, hr, hheight⟩ := mem_placeRows hrows hp
      exact ⟨hright, r, List.mem_cons_of_mem _ hr, hheight⟩

/-- Rows of no height, but for the last, have one top edge. -/
theorem top_of_flat : ∀ {y : Nat} {rows : List (List (PaneId × Nat) × Nat)},
    (∀ r ∈ rows.dropLast, r.2 = 0) → ∀ p ∈ placeRows width y rows, p.2.y = y
  | y, [(panes, height)], _, p, hp => by
    rcases List.mem_append.1 hp with hp | hp
    · exact (placeRow_spec p hp).1
    · exact absurd hp List.not_mem_nil
  | y, (panes, height) :: r :: rows, hflat, p, hp => by
    obtain ⟨hheight, hrest⟩ := List.forall_mem_cons.1 hflat
    rcases List.mem_append.1 hp with hp | hp
    · exact (placeRow_spec p hp).1
    · have hy := top_of_flat hrest p hp
      dsimp only at hheight
      omega

theorem sum_widths_placeRows : ∀ (y : Nat) {rows : List (List (PaneId × Nat) × Nat)},
    (∀ r ∈ rows, r.1 ≠ []) →
      ((placeRows width y rows).map (·.2.width)).sum = rows.length * width
  | _, [], _ => (Nat.zero_mul _).symm
  | y, (panes, height) :: rows, hne => by
    obtain ⟨hpanes, hrows⟩ := List.forall_mem_cons.1 hne
    rw [placeRows_cons, List.map_append, List.sum_append, widths_placeRow, sum_spread hpanes,
      sum_widths_placeRows (y + height) hrows, List.length_cons, Nat.add_one_mul, Nat.add_comm]

end Rows

section Screen

theorem length_rows_ofWidth (width : Int) :
    (GridMode.ofWidth width.toNat).rows.length = if width < 160 then 3 else 2 := by
  unfold GridMode.ofWidth
  split_ifs <;> first | rfl | omega

theorem length_screenRows (width height : Int) :
    (screenRows width height).length = if width < 160 then 3 else 2 := by
  have hlength := congrArg List.length (map_snd_screenRows width height)
  rwa [List.length_map, length_shares _ (GridMode.ones_ne_nil _), List.length_map,
    length_rows_ofWidth] at hlength

/-- All rows but the last have an equal part of the height, rounded down. -/
theorem height_of_mem_dropLast (width height : Int) : ∀ r ∈ (screenRows width height).dropLast,
    r.2 = bodyHeight height / if width < 160 then 3 else 2 := by
  have hparts : ((screenRows width height).dropLast).map Prod.snd
      = ((GridMode.ofWidth width.toNat).rows.map fun _ =>
        bodyHeight height / if width < 160 then 3 else 2).dropLast := by
    rw [List.map_dropLast, map_snd_screenRows, shares_eq, List.dropLast_concat, List.map_map,
      ← length_rows_ofWidth]
    simp [Function.comp_def]
  intro r hr
  have hmem := hparts ▸ List.mem_map_of_mem (f := Prod.snd) hr
  obtain ⟨-, -, h⟩ := List.mem_map.1 (List.dropLast_subset _ hmem)
  exact h.symm

end Screen

end Stepboard
