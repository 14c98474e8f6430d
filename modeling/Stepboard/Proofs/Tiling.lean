import Mathlib
import Stepboard.Proofs.ScreenTitles
/-!
# The panes tile the body of the screen

Shares add up to the total that is shared (`sum_shares`), so the panes of a row take the width of
the screen and the rows of a grid the height of its body. Rectangles side by side, and rows one
below the other, hold each cell of the region that they add up to once and no other cell
(`cover_placeRow`, `cover_placeRows`). No measure is ever negative on the way: worked out in all
integers, with rectangles refused that have a negative measure, the panes come to the same
(`measured_eq`).
-/

namespace Stepboard

section Shares

variable (total : Nat)

/-- Parts of a total that are rounded down add up to no more than it. -/
theorem sum_map_div_le (whole : Nat) : ∀ weights : List Nat,
    (weights.map fun w => total * w / whole).sum ≤ total * weights.sum / whole
  | [] => Nat.zero_le _
  | w :: weights => by
    have ih := sum_map_div_le whole weights
    rw [List.map_cons, List.sum_cons, List.sum_cons, Nat.mul_add]
    exact (Nat.add_le_add_left ih _).trans Nat.div_add_div_le_add_div

theorem shares_eq (weights : List Nat) :
    let parts := (weights.map fun w => total * w / weights.sum).dropLast
    shares total weights = parts ++ [total - parts.sum] := by
  unfold shares
  simp only [← List.sum_eq_foldl]

theorem sum_dropLast_add_getLastD (sizes : List Nat) :
    sizes.dropLast.sum + sizes.getLastD 0 = sizes.sum := by
  rcases sizes.eq_nil_or_concat with rfl | ⟨sizes, size, rfl⟩
  · rfl
  · simp

/-- All shares but the last take no more than the total. -/
theorem sum_parts_le (weights : List Nat) :
    (weights.map fun w => total * w / weights.sum).dropLast.sum ≤ total := by
  have hparts := sum_map_div_le total weights.sum weights
  have hsplit := sum_dropLast_add_getLastD (weights.map fun w => total * w / weights.sum)
  have hwhole : total * weights.sum / weights.sum ≤ total :=
    Nat.div_le_of_le_mul (Nat.mul_comm _ _).le
  omega

theorem sum_shares (weights : List Nat) : (shares total weights).sum = total := by
  have hparts := sum_parts_le total weights
  rw [shares_eq, List.sum_append, List.sum_singleton]
  omega

theorem length_shares {weights : List Nat} (h : weights ≠ []) :
    (shares total weights).length = weights.length := by
  have hpos := List.length_pos_of_ne_nil h
  rw [shares_eq, List.length_append, List.length_dropLast, List.length_map, List.length_singleton]
  omega

end Shares

/-- How many rectangles of a geometry hold a cell. -/
def cover (g : Geometry) (row column : Nat) : Nat :=
  g.countP fun p => p.2.Contains row column

section Cover

variable (row column : Nat)

theorem cover_cons (id : PaneId) (r : Rect) (g : Geometry) :
    cover ((id, r) :: g) row column
      = cover g row column + if r.Contains row column then 1 else 0 := by
  unfold cover
  rw [List.countP_cons]
  simp only [decide_eq_true_eq]

theorem cover_append (g g' : Geometry) :
    cover (g ++ g') row column = cover g row column + cover g' row column :=
  List.countP_append

/-- Panes side by side hold each cell once from the first column to the last. -/
theorem cover_placeRow (y height : Nat) : ∀ (x : Nat) (panes : List (PaneId × Nat)),
    cover (placeRow y height x panes) row column = if y ≤ row ∧ row < y + height ∧ x ≤ column
      ∧ column < x + (panes.map Prod.snd).sum then 1 else 0
  | x, [] => by
    rw [if_neg]
    · rfl
    · rw [List.map_nil, List.sum_nil]
      omega
  | x, (id, width) :: panes => by
    have ih := cover_placeRow y height (x + width) panes
    have hfirst : (Rect.mk y x height width).Contains row column ↔ y ≤ row ∧ row < y + height
        ∧ x ≤ column ∧ column < x + width := Iff.rfl
    rw [placeRow, cover_cons, ih, List.map_cons, List.sum_cons, if_congr hfirst rfl rfl]
    split_ifs <;> omega

/-- The panes of a row with the widths that they get. -/
def spread (width : Nat) (panes : List (PaneId × Nat)) : List (PaneId × Nat) :=
  (panes.map Prod.fst).zip (shares width (panes.map Prod.snd))

theorem map_snd_spread {width : Nat} {panes : List (PaneId × Nat)} (h : panes ≠ []) :
    (spread width panes).map Prod.snd = shares width (panes.map Prod.snd) := by
  unfold spread
  rw [List.map_snd_zip]
  rw [length_shares _ (by simpa using h), List.length_map, List.length_map]

/-- The panes of a row take the width. -/
theorem sum_spread {width : Nat} {panes : List (PaneId × Nat)} (h : panes ≠ []) :
    ((spread width panes).map Prod.snd).sum = width := by
  rw [map_snd_spread h, sum_shares]

theorem placeRows_cons (width y height : Nat) (panes : List (PaneId × Nat))
    (rows : List (List (PaneId × Nat) × Nat)) : placeRows width y ((panes, height) :: rows)
      = placeRow y height 0 (spread width panes) ++ placeRows width (y + height) rows :=
  rfl

/-- Stacked rows that take the width hold each cell once from the first line to the last. -/
theorem cover_placeRows (width : Nat) : ∀ (y : Nat) (rows : List (List (PaneId × Nat) × Nat)),
    (∀ r ∈ rows, r.1 ≠ []) → cover (placeRows width y rows) row column = if y ≤ row
      ∧ row < y + (rows.map Prod.snd).sum ∧ column < width then 1 else 0
  | y, [], _ => by
    rw [if_neg]
    · rfl
    · rw [List.map_nil, List.sum_nil]
      omega
  | y, (panes, height) :: rows, h => by
    obtain ⟨hpanes, hrows⟩ := List.forall_mem_cons.1 h
    have ih := cover_placeRows width (y + height) rows hrows
    rw [placeRows_cons, cover_append, cover_placeRow, sum_spread hpanes, ih, List.map_cons,
      List.sum_cons]
    split_ifs <;> omega

end Cover

section Region

theorem GridMode.rows_ne_nil (mode : GridMode) : ∀ row ∈ mode.rows, row ≠ [] := by
  cases mode <;> decide

theorem GridMode.ones_ne_nil (mode : GridMode) : mode.rows.map (fun _ => 1) ≠ [] := by
  cases mode <;> decide

/-- The rows of the grid of a screen with their heights. -/
def screenRows (width height : Int) : List (List (PaneId × Nat) × Nat) :=
  let rows := (GridMode.ofWidth width.toNat).rows
  rows.zip (shares (bodyHeight height) (rows.map fun _ => 1))

/-- The region between the header and the help line. -/
def bodyRegion (width height : Int) : Rect :=
  ⟨min headerRows height.toNat, 0, bodyHeight height, width.toNat⟩

variable (width height : Int)

theorem geometry_eq : geometry width height
    = placeRows width.toNat (bodyRegion width height).y (screenRows width height) :=
  rfl

theorem map_snd_screenRows : (screenRows width height).map Prod.snd
    = shares (bodyHeight height) ((GridMode.ofWidth width.toNat).rows.map fun _ => 1) := by
  unfold screenRows
  rw [List.map_snd_zip]
  rw [length_shares _ (GridMode.ones_ne_nil _), List.length_map]

theorem screenRows_ne_nil : ∀ r ∈ screenRows width height, r.1 ≠ [] :=
  fun _ hr => GridMode.rows_ne_nil _ _ (List.of_mem_zip hr).1

theorem sum_heights : ((screenRows width height).map Prod.snd).sum = bodyHeight height := by
  rw [map_snd_screenRows, sum_shares]

/-- The panes hold each cell between the header and the help line once, and no other cell. -/
theorem cover_geometry (row column : Nat) : cover (geometry width height) row column
    = if (bodyRegion width height).Contains row column then 1 else 0 := by
  have hbody : (bodyRegion width height).Contains row column ↔ (bodyRegion width height).y ≤ row
      ∧ row < (bodyRegion width height).y + bodyHeight height ∧ column < width.toNat := by
    simp [bodyRegion, Rect.Contains, Rect.bottom, Rect.right]
  rw [geometry_eq, cover_placeRows _ _ _ _ _ (screenRows_ne_nil width height), sum_heights,
    if_congr hbody rfl rfl]

end Region

section Panes

variable {g : Geometry} {id : PaneId} {r : Rect}

theorem rect_of_mem : ∀ {g : Geometry}, (g.map Prod.fst).Nodup → (id, r) ∈ g → g.rect id = r
  | (id', r') :: g, hnodup, h => by
    obtain ⟨hnot, hnodup⟩ := List.nodup_cons.1 hnodup
    rcases List.mem_cons.1 h with heq | hmem
    · cases heq
      simp [Geometry.rect]
    · have hne : id ≠ id' := by
        rintro rfl
        exact hnot (List.mem_map.2 ⟨(id, r), hmem, rfl⟩)
      have ih := rect_of_mem hnodup hmem
      unfold Geometry.rect at ih ⊢
      rwa [List.lookup_cons, beq_false_of_ne hne]

theorem mem_rect (hall : g.map Prod.fst = PaneId.all) (id : PaneId) : (id, g.rect id) ∈ g := by
  have hmem : id ∈ g.map Prod.fst := hall ▸ PaneId.mem_all id
  obtain ⟨⟨id', r⟩, hp, rfl⟩ := List.mem_map.1 hmem
  rwa [rect_of_mem (hall ▸ by decide) hp]

/-- A cell that is held once lies in one pane. -/
theorem existsUnique_of_cover {row column : Nat} (hall : g.map Prod.fst = PaneId.all)
    (h : cover g row column = 1) : ∃! id, (g.rect id).Contains row column := by
  unfold cover at h
  rw [List.countP_eq_length_filter, List.length_eq_one_iff] at h
  obtain ⟨⟨id, r⟩, hfilter⟩ := h
  have hiff : ∀ p, p ∈ g ∧ p.2.Contains row column ↔ p = (id, r) := by
    intro p
    rw [← List.mem_singleton, ← hfilter, List.mem_filter, decide_eq_true_eq]
  obtain ⟨hmem, hin⟩ := (hiff (id, r)).2 rfl
  refine ⟨id, ?_, fun id' hin' => ?_⟩
  · dsimp only
    rwa [rect_of_mem (hall ▸ by decide) hmem]
  · exact congrArg Prod.fst ((hiff (id', g.rect id')).1 ⟨mem_rect hall id', hin'⟩)

theorem cover_pos (hall : g.map Prod.fst = PaneId.all) {row column : Nat}
    (h : (g.rect id).Contains row column) : 0 < cover g row column :=
  List.countP_pos_iff.2 ⟨_, mem_rect hall id, decide_eq_true h⟩

end Panes

section Measured

/-- Shares any integer by weights, rounding down; the last share takes the rest. -/
def sharesOfInt (total : Int) (weights : List Nat) : List Int :=
  let whole : Nat := weights.foldl (· + ·) 0
  let sizes := weights.map fun w : Nat => (total * (w : Int)).fdiv whole
  sizes.dropLast ++ [sizes.getLastD 0 + (total - sizes.foldl (· + ·) 0)]

/-- Lays panes of given widths side by side, if no measure is negative. -/
def measuredRow (y height : Int) : Int → List (PaneId × Int) → Except NegativeRect Geometry
  | _, [] => .ok []
  | x, (id, width) :: rest => do
    let rect ← Rect.ofInts y x height width
    let placed ← measuredRow y height (x + width) rest
    pure ((id, rect) :: placed)

/-- Stacks rows of given heights, the panes of each sharing the width, if no measure is negative. -/
def measuredRows (width : Int) :
    Int → List (List (PaneId × Nat) × Int) → Except NegativeRect Geometry
  | _, [] => .ok []
  | y, (row, height) :: rest => do
    let placed ← measuredRow y height 0
      ((row.map Prod.fst).zip (sharesOfInt width (row.map Prod.snd)))
    let below ← measuredRows width (y + height) rest
    pure (placed ++ below)

/-- The rectangles of the panes worked out in integers, if no measure is negative. -/
def measured (width height : Int) : Except NegativeRect Geometry :=
  let width := max 0 width
  let rows := (GridMode.ofWidth width).rows
  measuredRows width (min headerRows (max 0 height))
    (rows.zip (sharesOfInt (max 0 (height - headerRows - helpRows)) (rows.map fun _ => 1)))

theorem sum_map_natCast (sizes : List Nat) :
    (sizes.map (Nat.cast : Nat → Int)).sum = sizes.sum := by
  induction sizes with
  | nil => rfl
  | cons size sizes ih => rw [List.map_cons, List.sum_cons, List.sum_cons, ih, Int.natCast_add]

theorem getLastD_map_natCast (sizes : List Nat) :
    (sizes.map (Nat.cast : Nat → Int)).getLastD 0 = (sizes.getLastD 0 : Nat) := by
  rcases sizes.eq_nil_or_concat with rfl | ⟨sizes, size, rfl⟩
  · rfl
  · simp

theorem sharesOfInt_natCast (total : Nat) (weights : List Nat) :
    sharesOfInt total weights = (shares total weights).map Nat.cast := by
  have hsizes : (weights.map fun w : Nat => ((total : Int) * (w : Int)).fdiv (weights.sum : Nat))
      = (weights.map fun w => total * w / weights.sum).map Nat.cast := by
    rw [List.map_map]
    refine List.map_congr_left fun w _ => ?_
    rw [Int.fdiv_eq_ediv_of_nonneg _ (Int.natCast_nonneg _), Function.comp_apply]
    push_cast
    rfl
  have hparts := sum_parts_le total weights
  have hsplit := sum_dropLast_add_getLastD (weights.map fun w => total * w / weights.sum)
  rw [shares_eq]
  unfold sharesOfInt
  simp only [← List.sum_eq_foldl, hsizes, sum_map_natCast, getLastD_map_natCast]
  generalize weights.map (fun w => total * w / weights.sum) = sizes at hparts hsplit ⊢
  have hlast : ((sizes.getLastD 0 : Nat) : Int) + (total - (sizes.sum : Nat))
      = (total - sizes.dropLast.sum : Nat) := by omega
  rw [hlast, List.map_append, List.map_dropLast]
  rfl

theorem measuredRow_natCast (y height : Nat) : ∀ (x : Nat) (ids : List PaneId) (widths : List Nat),
    measuredRow y height x (ids.zip (widths.map Nat.cast))
      = .ok (placeRow y height x (ids.zip widths))
  | _, [], _ => rfl
  | _, _ :: _, [] => rfl
  | x, id :: ids, width :: widths => by
    have ih := measuredRow_natCast y height (x + width) ids widths
    push_cast at ih
    have hrect : Rect.ofInts y x height width = .ok ⟨y, x, height, width⟩ := by
      unfold Rect.ofInts
      rw [if_pos (by omega)]
      rfl
    rw [List.map_cons, List.zip_cons_cons, measuredRow, ih, hrect]
    rfl

theorem measuredRows_natCast (width : Nat) :
    ∀ (y : Nat) (rows : List (List (PaneId × Nat))) (heights : List Nat),
      measuredRows width y (rows.zip (heights.map Nat.cast))
        = .ok (placeRows width y (rows.zip heights))
  | _, [], _ => rfl
  | _, _ :: _, [] => rfl
  | y, row :: rows, height :: heights => by
    have ih := measuredRows_natCast width (y + height) rows heights
    push_cast at ih
    have hrow := measuredRow_natCast y height 0 (row.map Prod.fst)
      (shares width (row.map Prod.snd))
    rw [List.map_cons, List.zip_cons_cons, measuredRows, ih, sharesOfInt_natCast]
    rw [show ((0 : Nat) : Int) = 0 from rfl] at hrow
    rw [hrow]
    rfl

/-- No measure of a pane is ever negative. -/
theorem measured_eq (width height : Int) : measured width height = .ok (geometry width height) := by
  have hwidth : max 0 width = (width.toNat : Int) := by omega
  have htop : min (headerRows : Int) (max 0 height) = (min headerRows height.toNat : Nat) := by
    omega
  have hbody : max 0 (height - headerRows - helpRows) = (bodyHeight height : Int) := by
    unfold bodyHeight
    omega
  unfold measured geometry
  simp only [hwidth, htop, hbody, sharesOfInt_natCast]
  exact measuredRows_natCast _ _ _ _

end Measured

/-- For screens of all sizes the panes have their rectangles, one each, worked out without a
negative measure. On a screen with a body, each cell of the body lies in just one pane, and no pane
holds another cell; on a smaller screen the panes hold none. -/
theorem panes_tile_body (width height : Int) :
    measured width height = .ok (geometry width height)
      ∧ (geometry width height).map Prod.fst = PaneId.all
      ∧ (0 ≤ width → 4 ≤ height → ∀ row column : Nat,
        (3 ≤ row ∧ row < height - 1 ∧ column < width →
          ∃! id, ((geometry width height).rect id).Contains row column)
        ∧ ∀ id, ((geometry width height).rect id).Contains row column →
          3 ≤ row ∧ row < height - 1 ∧ column < width)
      ∧ (width < 0 ∨ height < 4 → ∀ id, ((geometry width height).rect id).height
        * ((geometry width height).rect id).width = 0) := by
  have hall := map_fst_geometry width height
  have hcover := cover_geometry width height
  refine ⟨measured_eq width height, hall, fun hw hh row column => ?tiled, fun hsmall id => ?small⟩
  case tiled =>
    have hbody : (bodyRegion width height).Contains row column
        ↔ 3 ≤ row ∧ row < height - 1 ∧ column < width := by
      unfold bodyRegion Rect.Contains Rect.bottom Rect.right bodyHeight headerRows helpRows
      dsimp only
      omega
    refine ⟨fun hin => existsUnique_of_cover hall ?_, fun id hin => ?_⟩
    · rw [hcover, if_pos (hbody.2 hin)]
    · have hpos := cover_pos hall hin
      rw [hcover] at hpos
      by_contra hout
      rw [if_neg (mt hbody.1 hout)] at hpos
      exact Nat.lt_irrefl 0 hpos
  case small =>
    by_contra harea
    obtain ⟨hheight, hwidth⟩ := Nat.mul_ne_zero_iff.1 harea
    -- A rectangle with an area holds its own corner.
    generalize hr : (geometry width height).rect id = r at hheight hwidth
    have hcorner : ((geometry width height).rect id).Contains r.y r.x := by
      rw [hr]
      unfold Rect.Contains Rect.bottom Rect.right
      omega
    have hpos := cover_pos hall hcorner
    rw [hcover, if_neg] at hpos
    · exact Nat.lt_irrefl 0 hpos
    · unfold bodyRegion Rect.Contains Rect.bottom Rect.right bodyHeight headerRows helpRows
      dsimp only
      omega

/-- The last cell above the help line lies in one pane of a usual terminal, and a terminal that is
three lines high has no room for a pane. -/
theorem panes_tile_terminal :
    (0 : Int) ≤ 80 ∧ (4 : Int) ≤ 24 ∧ (∃! id, ((geometry 80 24).rect id).Contains 22 79)
      ∧ (3 : Int) < 4
      ∧ ((geometry 80 3).rect .log).height * ((geometry 80 3).rect .log).width = 0 := by
  obtain ⟨-, -, htiled, -⟩ := panes_tile_body 80 24
  obtain ⟨-, -, -, hsmall⟩ := panes_tile_body 80 3
  exact ⟨by decide, by decide, (htiled (by decide) (by decide) 22 79).1 (by decide), by decide,
    hsmall (.inr (by decide)) .log⟩

end Stepboard
