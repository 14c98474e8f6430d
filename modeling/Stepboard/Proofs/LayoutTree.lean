import Stepboard.Proofs.GridRows
/-!
# Reading the layout tree

A tree says by its sizes alone where its leaves stand: the children of a column go down, those of a
row go across. The tree of the panes has a row for each top edge, so it has the rows of the grid if
each of them but the last is at least a line high (`children_body_placeRows`), and reading it gives
the rectangles of the panes back. On a lower screen the rows of the grid have one top edge, and
become one row of the tree.
-/

namespace Stepboard

namespace Layout

variable {α : Type}

/-- The size of a region, nothing if it has none of its own. -/
def extent (layout : Layout α) : Nat :=
  layout.size.getD 0

mutual

/-- Where the leaves of a region stand, given where the region stands and how large it is. -/
def regions : Layout α → Nat → Nat → Nat → Nat → List (String × Rect)
  | .leaf name _ _, y, x, height, width => [(name, ⟨y, x, height, width⟩)]
  | .split _ _ .row children, y, x, height, _ => across children y x height
  | .split _ _ .column children, y, x, _, width => down children y x width

/-- Where the leaves of regions stand that go across the screen from a column on. -/
def across : List (Layout α) → Nat → Nat → Nat → List (String × Rect)
  | [], _, _, _ => []
  | child :: rest, y, x, height =>
    regions child y x height child.extent ++ across rest y (x + child.extent) height

/-- Where the leaves of regions stand that go down the screen from a line on. -/
def down : List (Layout α) → Nat → Nat → Nat → List (String × Rect)
  | [], _, _, _ => []
  | child :: rest, y, x, width =>
    regions child y x child.extent width ++ down rest (y + child.extent) x width

end

end Layout

namespace Placed

variable {α : Type}

section Rows

variable {ps qs : List (Placed α)} {y : Nat}

theorem mergeSort_cons_of_lt {n : Nat} {ns : List Nat} (h : ∀ m ∈ ns, n < m) :
    (n :: ns).mergeSort = n :: ns.mergeSort := by
  have hsorted : ∀ l : List Nat, l.mergeSort.Pairwise (· ≤ ·) := fun l =>
    (List.pairwise_mergeSort (by simp; omega) (by simp; omega) l).imp (by simp)
  refine List.Perm.eq_of_pairwise (fun a b _ _ => Nat.le_antisymm) (hsorted _)
    (List.pairwise_cons.2 ⟨fun m hm => ?_, hsorted ns⟩) ?_
  · exact (h m (List.mem_mergeSort.1 hm)).le
  · exact (List.mergeSort_perm _ _).trans ((List.mergeSort_perm ns _).symm.cons n)

/-- A row above all others comes first. -/
theorem rowTops_append (hne : ps ≠ []) (hps : ∀ p ∈ ps, p.rect.y = y)
    (hqs : ∀ q ∈ qs, y < q.rect.y) : rowTops (ps ++ qs) = y :: rowTops qs := by
  obtain ⟨p, ps, rfl⟩ := List.exists_cons_of_ne_nil hne
  have hrest : ((ps ++ qs).map (·.rect.y)).filter (fun n => !n == y) = qs.map (·.rect.y) := by
    rw [List.map_append, List.filter_append, List.filter_eq_nil_iff.2, List.nil_append,
      List.filter_eq_self]
    · intro n hn
      obtain ⟨q, hq, rfl⟩ := List.mem_map.1 hn
      have hlt := hqs q hq
      simp
      omega
    · intro n hn
      obtain ⟨q, hq, rfl⟩ := List.mem_map.1 hn
      simp [hps q (List.mem_cons_of_mem p hq)]
  unfold rowTops
  rw [List.cons_append, List.map_cons, List.eraseDups_cons, hps p List.mem_cons_self, hrest,
    mergeSort_cons_of_lt]
  intro n hn
  obtain ⟨q, hq, rfl⟩ := List.mem_map.1 (List.mem_eraseDups.1 hn)
  exact hqs q hq

theorem row_append_left (hqs : ∀ q ∈ qs, q.rect.y ≠ y) : row (ps ++ qs) y = row ps y := by
  have hnone : qs.filter (·.rect.y == y) = [] := List.filter_eq_nil_iff.2 (by simpa using hqs)
  unfold row rowMembers
  rw [List.filter_append, hnone, List.append_nil]

theorem row_append_right (hps : ∀ p ∈ ps, p.rect.y ≠ y) : row (ps ++ qs) y = row qs y := by
  have hnone : ps.filter (·.rect.y == y) = [] := List.filter_eq_nil_iff.2 (by simpa using hps)
  unfold row rowMembers
  rw [List.filter_append, hnone, List.nil_append]

theorem children_body_append (hne : ps ≠ []) (hps : ∀ p ∈ ps, p.rect.y = y)
    (hqs : ∀ q ∈ qs, y < q.rect.y) :
    (body (ps ++ qs)).children = row ps y :: (body qs).children := by
  have hrest : ∀ n ∈ rowTops qs, row (ps ++ qs) n = row qs n := by
    intro n hn
    obtain ⟨q, hq, rfl⟩ := List.mem_map.1 (List.mem_eraseDups.1 (List.mem_mergeSort.1 hn))
    refine row_append_right fun p hp => ?_
    have hlt := hqs q hq
    rw [hps p hp]
    omega
  unfold body
  rw [Layout.children, Layout.children, rowTops_append hne hps hqs, List.map_cons,
    row_append_left fun q hq => (hqs q hq).ne', List.map_congr_left hrest]

/-- Things with one top edge are in one row. -/
theorem children_body_of_flat (hne : ps ≠ []) (hps : ∀ p ∈ ps, p.rect.y = y) :
    (body ps).children = [row ps y] := by
  have h := children_body_append hne hps (List.forall_mem_nil fun q : Placed α => y < q.rect.y)
  have hnil : (body ([] : List (Placed α))).children = [] := by
    simp [body, rowTops, Layout.children]
  rwa [List.append_nil, hnil] at h

/-- A row takes its members as they come if they go from left to right. -/
theorem rowMembers_of_pairwise (hps : ∀ p ∈ ps, p.rect.y = y)
    (hsorted : ps.Pairwise fun p q => p.rect.x ≤ q.rect.x) : rowMembers ps y = ps := by
  unfold rowMembers
  rw [List.filter_eq_self.2 (by simpa using hps)]
  exact List.mergeSort_of_pairwise (by simpa using hsorted)

end Rows

end Placed

section Geometry

variable {α : Type}

/-- The rectangles of a geometry with the names of the panes. -/
def Geometry.byName (g : Geometry) : List (String × Rect) :=
  g.map fun p => (p.1.name, p.2)

/-- The panes of a geometry with what they show. -/
def Geometry.hang (g : Geometry) (content : PaneId → α) : List (Placed α) :=
  g.map fun p => ⟨p.1.name, p.2, content p.1⟩

/-- Read from left to right, panes side by side stand where they were placed. -/
theorem across_placeRow (content : PaneId → α) (y height : Nat) :
    ∀ (x : Nat) (panes : List (PaneId × Nat)),
      Layout.across ((Geometry.hang (placeRow y height x panes) content).map Placed.region) y x
          height
        = Geometry.byName (placeRow y height x panes)
  | _, [] => rfl
  | x, (id, width) :: panes => by
    have ih := across_placeRow content y height (x + width) panes
    unfold Geometry.hang Geometry.byName at ih ⊢
    rw [placeRow, List.map_cons, List.map_cons, List.map_cons, ← ih]
    rfl

/-- The row of a tree that holds a row of the grid. -/
def gridRow (content : PaneId → α) (width y : Nat) (panes : List (PaneId × Nat)) (height : Nat) :
    Layout α :=
  .split ("row-" ++ Numeral.decimal y) (some height) .row
    ((Geometry.hang (placeRow y height 0 (spread width panes)) content).map Placed.region)

theorem row_placeRow (content : PaneId → α) (width y height : Nat) {panes : List (PaneId × Nat)}
    (h : panes ≠ []) :
    Placed.row (Geometry.hang (placeRow y height 0 (spread width panes)) content) y
      = gridRow content width y panes height := by
  have hmembers : Placed.rowMembers (Geometry.hang (placeRow y height 0 (spread width panes))
      content) y = Geometry.hang (placeRow y height 0 (spread width panes)) content := by
    refine Placed.rowMembers_of_pairwise (fun p hp => ?_) ?_
    · obtain ⟨q, hq, rfl⟩ := List.mem_map.1 hp
      exact (placeRow_spec q hq).1
    · exact List.pairwise_map.2 (pairwise_placeRow y height 0 _)
  obtain ⟨p, ps, hps⟩ := List.exists_cons_of_ne_nil (placeRow_ne_nil width y height h)
  have hp : p ∈ placeRow y height 0 (spread width panes) := hps ▸ List.mem_cons_self
  have hheight := (placeRow_spec p hp).2.1
  unfold Placed.row gridRow
  rw [hmembers, hps, ← hheight]
  rfl

/-- The rows of a tree that hold the rows of the grid. -/
def gridRows (content : PaneId → α) (width : Nat) :
    Nat → List (List (PaneId × Nat) × Nat) → List (Layout α)
  | _, [] => []
  | y, (panes, height) :: rows =>
    gridRow content width y panes height :: gridRows content width (y + height) rows

/-- Where each row but the last is at least a line high, the tree has the rows of the grid. -/
theorem children_body_placeRows (content : PaneId → α) (width : Nat) :
    ∀ (y : Nat) (rows : List (List (PaneId × Nat) × Nat)), (∀ r ∈ rows, r.1 ≠ []) →
      (∀ r ∈ rows.dropLast, 0 < r.2) →
      (Placed.body (Geometry.hang (placeRows width y rows) content)).children
        = gridRows content width y rows
  | _, [], _, _ => by
    simp [Placed.body, Placed.rowTops, Layout.children, placeRows, Geometry.hang, gridRows]
  | y, (panes, height) :: rows, hne, htall => by
    obtain ⟨hpanes, hrows⟩ := List.forall_mem_cons.1 hne
    have hbelow : ∀ q ∈ Geometry.hang (placeRows width (y + height) rows) content,
        y < q.rect.y := by
      intro q hq
      obtain ⟨p, hp, rfl⟩ := List.mem_map.1 hq
      have hy := placeRows_spec p hp
      have hheight : 0 < height := by
        cases rows with
        | nil => exact absurd hp List.not_mem_nil
        | cons r rows => exact htall (panes, height) List.mem_cons_self
      dsimp only
      omega
    have hrest : ∀ r ∈ rows.dropLast, 0 < r.2 := by
      intro r hr
      cases rows with
      | nil => exact absurd hr List.not_mem_nil
      | cons r' rows => exact htall r (List.mem_cons_of_mem _ hr)
    have ih := children_body_placeRows content width (y + height) rows hrows hrest
    have hsplit : Geometry.hang (placeRows width y ((panes, height) :: rows)) content
        = Geometry.hang (placeRow y height 0 (spread width panes)) content
          ++ Geometry.hang (placeRows width (y + height) rows) content := List.map_append
    rw [hsplit, Placed.children_body_append (y := y), row_placeRow content width y height hpanes,
      ih, gridRows]
    · simpa [Geometry.hang] using placeRow_ne_nil width y height hpanes
    · intro p hp
      obtain ⟨q, hq, rfl⟩ := List.mem_map.1 hp
      exact (placeRow_spec q hq).1
    · exact hbelow

/-- Read from the top, the rows of the grid stand where they were placed. -/
theorem down_gridRows (content : PaneId → α) (width extent : Nat) :
    ∀ (y : Nat) (rows : List (List (PaneId × Nat) × Nat)),
      Layout.down (gridRows content width y rows) y 0 extent
        = Geometry.byName (placeRows width y rows)
  | _, [] => rfl
  | y, (panes, height) :: rows => by
    have ih := down_gridRows content width extent (y + height) rows
    have hrow := across_placeRow content y height 0 (spread width panes)
    have hsplit : Geometry.byName (placeRows width y ((panes, height) :: rows))
        = Geometry.byName (placeRow y height 0 (spread width panes))
          ++ Geometry.byName (placeRows width (y + height) rows) := List.map_append
    rw [hsplit, ← hrow, ← ih]
    rfl

theorem extents_gridRows (content : PaneId → α) (width : Nat) :
    ∀ (y : Nat) (rows : List (List (PaneId × Nat) × Nat)),
      (gridRows content width y rows).map Layout.extent = rows.map Prod.snd
  | _, [] => rfl
  | y, (panes, height) :: rows => by
    rw [gridRows, List.map_cons, List.map_cons, extents_gridRows content width (y + height) rows]
    rfl

theorem extents_children_gridRow (content : PaneId → α) (width y : Nat)
    {panes : List (PaneId × Nat)} (height : Nat) (h : panes ≠ []) :
    ((gridRow content width y panes height).children.map Layout.extent).sum = width := by
  have hwidths := widths_placeRow y height 0 (spread width panes)
  have hextents : (gridRow content width y panes height).children.map Layout.extent
      = (placeRow y height 0 (spread width panes)).map (·.2.width) := by
    unfold gridRow Layout.children Geometry.hang
    rw [List.map_map, List.map_map]
    rfl
  rw [hextents, hwidths, sum_spread h]

theorem mem_gridRows {content : PaneId → α} {width : Nat} {row : Layout α} :
    ∀ {y : Nat} {rows : List (List (PaneId × Nat) × Nat)}, row ∈ gridRows content width y rows →
      ∃ y, ∃ r ∈ rows, row = gridRow content width y r.1 r.2
  | y, (panes, height) :: rows, h => by
    rcases List.mem_cons.1 h with rfl | h
    · exact ⟨y, (panes, height), List.mem_cons_self, rfl⟩
    · obtain ⟨y', r, hr, hrow⟩ := mem_gridRows h
      exact ⟨y', r, List.mem_cons_of_mem _ hr, hrow⟩

end Geometry

section Flat

variable {α : Type}

theorem height_across (y height : Nat) : ∀ (ps : List (Placed α)) (x : Nat),
    ∀ r ∈ Layout.across (ps.map Placed.region) y x height, r.2.height = height
  | p :: ps, x, r, hr => by
    rcases List.mem_cons.1 hr with rfl | hr
    · rfl
    · exact height_across y height ps (x + p.rect.width) r hr

/-- The last of some regions that go across ends where their sizes add up to. -/
theorem exists_right_across (y height : Nat) : ∀ (ps : List (Placed α)) (x : Nat), ps ≠ [] →
    ∃ r ∈ Layout.across (ps.map Placed.region) y x height,
      r.2.right = x + (ps.map (·.rect.width)).sum
  | [p], x, _ => ⟨(p.name, ⟨y, x, height, p.rect.width⟩), List.mem_cons_self, rfl⟩
  | p :: q :: ps, x, _ => by
    obtain ⟨r, hr, hright⟩ := exists_right_across y height (q :: ps) (x + p.rect.width) (by simp)
    refine ⟨r, List.mem_cons_of_mem _ hr, ?_⟩
    rw [hright, List.map_cons (l := q :: ps), List.sum_cons (l := (q :: ps).map _), Nat.add_assoc]

/-- Regions without a width stand where things without a width are placed. -/
theorem across_of_thin {y x height : Nat} : ∀ {ps : List (Placed α)},
    (∀ p ∈ ps, p.rect = ⟨y, x, height, 0⟩) →
      Layout.across (ps.map Placed.region) y x height = ps.map fun p => (p.name, p.rect)
  | [], _ => rfl
  | p :: ps, h => by
    obtain ⟨hp, hps⟩ := List.forall_mem_cons.1 h
    have ih := across_of_thin hps
    have hextent : p.region.extent = 0 := congrArg Rect.width hp
    rw [List.map_cons, List.map_cons, Layout.across, hextent, Nat.add_zero, ih, hp]
    rfl

theorem regions_body (ps : List (Placed α)) (y x height extent : Nat) :
    (Placed.body ps).regions y x height extent
      = Layout.down (Placed.body ps).children y x extent :=
  rfl

variable (content : PaneId → α) (width y : Nat) {rows : List (List (PaneId × Nat) × Nat)}
  (hne : ∀ r ∈ rows, r.1 ≠ []) (hlength : 2 ≤ rows.length) (hflat : ∀ r ∈ rows.dropLast, r.2 = 0)

include hne hlength hflat

/-- Where the rows of the grid have one top edge they become one row of the tree. It is as wide as
all of them together, and has its height from one of the panes. -/
theorem children_of_flat : ∃ p ∈ placeRows width y rows, ∃ ps : List (Placed α),
    ps.Perm (Geometry.hang (placeRows width y rows) content)
      ∧ ps ≠ [] ∧ (ps.map (·.rect.width)).sum = rows.length * width
      ∧ (Placed.body (Geometry.hang (placeRows width y rows) content)).children
        = [.split ("row-" ++ Numeral.decimal y) (some p.2.height) .row (ps.map Placed.region)] := by
  have htop : ∀ p ∈ Geometry.hang (placeRows width y rows) content, p.rect.y = y := by
    intro p hp
    obtain ⟨q, hq, rfl⟩ := List.mem_map.1 hp
    exact top_of_flat hflat q hq
  have hperm : (Placed.rowMembers (Geometry.hang (placeRows width y rows) content) y).Perm
      (Geometry.hang (placeRows width y rows) content) := by
    unfold Placed.rowMembers
    rw [List.filter_eq_self.2 (by simpa using htop)]
    exact List.mergeSort_perm _ _
  obtain ⟨r, hr⟩ := List.exists_mem_of_length_pos (l := rows) (by omega)
  obtain ⟨q, hq, -⟩ := height_mem_placeRows width y hr (hne r hr)
  have hsome : Geometry.hang (placeRows width y rows) content ≠ [] :=
    List.ne_nil_of_mem (List.mem_map_of_mem hq)
  have hchildren := Placed.children_body_of_flat hsome htop
  unfold Placed.row at hchildren
  generalize Placed.rowMembers _ y = ps at hperm hchildren
  have hps : ps ≠ [] := fun hnil => hsome (hnil ▸ hperm).symm.eq_nil
  obtain ⟨first, rest, rfl⟩ := List.exists_cons_of_ne_nil hps
  obtain ⟨p, hp, hfirst⟩ := List.mem_map.1 (hperm.mem_iff.1 List.mem_cons_self)
  refine ⟨p, hp, _, hperm, hps, ?_, ?_⟩
  · rw [← sum_widths_placeRows y hne, (hperm.map _).sum_eq]
    unfold Geometry.hang
    rw [List.map_map]
    rfl
  · rw [hchildren, ← hfirst]
    rfl

variable (height extent : Nat)

/-- Such a tree agrees with the grid only if no pane has a width or a height. -/
theorem none_of_flat (hagree : ((Placed.body (Geometry.hang (placeRows width y rows)
    content)).regions y 0 height extent).Perm (Geometry.byName (placeRows width y rows))) :
    width = 0 ∧ ∀ r ∈ rows, r.2 = 0 := by
  obtain ⟨p, hp, ps, -, hps, hwidths, hchildren⟩ :=
    children_of_flat content width y hne hlength hflat
  have hread : (Placed.body (Geometry.hang (placeRows width y rows) content)).regions y 0 height
      extent = Layout.across (ps.map Placed.region) y 0 p.2.height := by
    rw [regions_body, hchildren]
    exact List.append_nil _
  rw [hread] at hagree
  have hheight : ∀ r ∈ rows, r.2 = p.2.height := by
    intro r hr
    obtain ⟨q, hq, hqheight⟩ := height_mem_placeRows width y hr (hne r hr)
    rw [← hqheight]
    exact height_across y p.2.height ps 0 (q.1.name, q.2)
      (hagree.mem_iff.2 (List.mem_map_of_mem (f := fun p => (p.1.name, p.2)) hq))
  obtain ⟨r, hr, hright⟩ := exists_right_across y p.2.height ps 0 hps
  obtain ⟨q, hq, rfl⟩ := List.mem_map.1 (hagree.mem_iff.1 hr)
  have hle := (mem_placeRows hne hq).1
  refine ⟨?_, fun r hr => ?_⟩
  · have htwice := Nat.mul_le_mul_right width hlength
    dsimp only at hright
    omega
  · obtain ⟨first, hfirst⟩ := List.exists_mem_of_length_pos (l := rows.dropLast) (by
      rw [List.length_dropLast]
      omega)
    rw [hheight r hr, ← hheight first (List.dropLast_subset rows hfirst), hflat first hfirst]

/-- Such a tree agrees with the grid if no pane has a width or a height. -/
theorem agrees_of_none (hwidth : width = 0) (hnone : ∀ r ∈ rows, r.2 = 0) :
    ((Placed.body (Geometry.hang (placeRows width y rows) content)).regions y 0 height extent).Perm
      (Geometry.byName (placeRows width y rows)) := by
  have hrect : ∀ p ∈ placeRows width y rows, p.2 = ⟨y, 0, 0, 0⟩ := by
    intro p hp
    obtain ⟨hright, r, hr, hheight⟩ := mem_placeRows hne hp
    have hy := top_of_flat hflat p hp
    rw [hnone r hr] at hheight
    obtain ⟨id, ⟨y', x, h, w⟩⟩ := p
    rw [hwidth] at hright
    unfold Rect.right at hright
    dsimp only at hright hy hheight
    obtain ⟨rfl, rfl⟩ : x = 0 ∧ w = 0 := by omega
    rw [hy, hheight]
  obtain ⟨p, hp, ps, hperm, -, -, hchildren⟩ :=
    children_of_flat content width y hne hlength hflat
  have hthin : ∀ p' ∈ ps, p'.rect = ⟨y, 0, p.2.height, 0⟩ := by
    intro p' hp'
    obtain ⟨q, hq, rfl⟩ := List.mem_map.1 (hperm.mem_iff.1 hp')
    rw [hrect p hp]
    exact hrect q hq
  have hread : (Placed.body (Geometry.hang (placeRows width y rows) content)).regions y 0 height
      extent = ps.map fun p => (p.name, p.rect) := by
    rw [regions_body, hchildren, ← across_of_thin hthin]
    exact List.append_nil _
  have hnames := hperm.map fun p => (p.name, p.rect)
  unfold Geometry.hang at hnames
  rw [hread]
  rwa [List.map_map] at hnames

end Flat

section Screen

variable {α : Type}

/-- Reading the tree of the panes gives back their rectangles just if the body has a line for each
row of the grid, or if there is no screen for panes at all. The sizes of the rows then add up to the
height of the body, and the sizes in each row to the width of the screen. -/
theorem layout_tree_agrees_iff (width height : Int) (content : PaneId → α) :
    let tree := Placed.body ((geometry width height).hang content)
    let screen := bodyRegion width height
    ((tree.regions screen.y screen.x screen.height screen.width).Perm (geometry width height).byName
        ↔ (if width < 160 then 7 else 6) ≤ height ∨ width ≤ 0 ∧ height ≤ 4)
      ∧ ((if width < 160 then 7 else 6) ≤ height ∨ width ≤ 0 ∧ height ≤ 4 →
        (tree.children.map Layout.extent).sum = bodyHeight height
          ∧ ∀ row ∈ tree.children, (row.children.map Layout.extent).sum = width.toNat) := by
  intro tree screen
  have hne := screenRows_ne_nil width height
  have hsum := sum_heights width height
  have hlength := length_screenRows width height
  have hbody : bodyHeight height = (height - 4).toNat := by
    unfold bodyHeight headerRows helpRows
    omega
  have htree : tree = Placed.body (Geometry.hang (placeRows width.toNat screen.y
    (screenRows width height)) content) := rfl
  by_cases htall : (if width < 160 then 3 else 2) ≤ bodyHeight height
  case pos =>
    have hheight : ∀ r ∈ (screenRows width height).dropLast, 0 < r.2 := by
      intro r hr
      rw [height_of_mem_dropLast width height r hr]
      exact Nat.div_pos htall (by split_ifs <;> decide)
    have hchildren := children_body_placeRows content width.toNat screen.y _ hne hheight
    have hagree : tree.regions screen.y screen.x screen.height screen.width
        = (geometry width height).byName := by
      rw [htree, regions_body, hchildren]
      exact down_gridRows content _ _ _ _
    have hcond : (if width < 160 then 7 else 6) ≤ height := by split_ifs at htall ⊢ <;> omega
    refine ⟨iff_of_true (.of_eq hagree) (.inl hcond), fun _ => ⟨?_, fun row hrow => ?_⟩⟩
    · rw [htree, hchildren, extents_gridRows, hsum]
    · rw [htree, hchildren] at hrow
      obtain ⟨y, r, hr, rfl⟩ := mem_gridRows hrow
      exact extents_children_gridRow content _ y r.2 (hne r hr)
  case neg =>
    have hflat : ∀ r ∈ (screenRows width height).dropLast, r.2 = 0 := by
      intro r hr
      rw [height_of_mem_dropLast width height r hr]
      exact Nat.div_eq_of_lt (Nat.not_le.1 htall)
    have htwo : 2 ≤ (screenRows width height).length := by
      rw [hlength]
      split_ifs <;> decide
    have hlow : ¬ (if width < 160 then 7 else 6) ≤ height := by split_ifs at htall ⊢ <;> omega
    have hnone : (∀ r ∈ screenRows width height, r.2 = 0) ↔ height ≤ 4 := by
      have hzero : (∀ r ∈ screenRows width height, r.2 = 0) ↔ bodyHeight height = 0 := by
        rw [← hsum, List.sum_eq_zero_iff_forall_eq_nat, List.forall_mem_map]
      rw [hzero, hbody]
      omega
    refine ⟨⟨fun hagree => .inr ?_, fun hcond => ?_⟩, fun hcond => ?_⟩
    · obtain ⟨hwidth, hheights⟩ := none_of_flat content _ _ hne htwo hflat _ _ hagree
      exact ⟨by omega, hnone.1 hheights⟩
    · obtain ⟨hwidth, hheight⟩ := hcond.resolve_left hlow
      exact agrees_of_none content _ _ hne htwo hflat _ _ (by omega) (hnone.2 hheight)
    · obtain ⟨hwidth, hheight⟩ := hcond.resolve_left hlow
      obtain ⟨p, hp, ps, -, -, hwidths, hchildren⟩ :=
        children_of_flat content width.toNat screen.y hne htwo hflat
      obtain ⟨-, r, hr, hpheight⟩ := mem_placeRows hne hp
      rw [hnone.2 hheight r hr] at hpheight
      rw [htree, hchildren]
      refine ⟨?_, fun row hrow => ?_⟩
      · rw [hbody, List.map_singleton, List.sum_singleton]
        unfold Layout.extent Layout.size
        rw [hpheight, Option.getD_some]
        omega
      · rw [List.mem_singleton.1 hrow, Layout.children, List.map_map]
        have hzero : width.toNat = 0 := by omega
        rw [hzero, Nat.mul_zero] at hwidths
        exact hwidths.trans hzero.symm

/-- On a usual terminal the tree agrees with the grid, and its rows add up to the body. -/
theorem layout_tree_agrees_on_terminal :
    let tree := Placed.body ((geometry 80 24).hang PaneId.label)
    (if (80 : Int) < 160 then (7 : Int) else 6) ≤ 24
      ∧ (tree.regions 3 0 20 80).Perm (geometry 80 24).byName
      ∧ (tree.children.map Layout.extent).sum = 20 := by
  obtain ⟨hagree, hsums⟩ := layout_tree_agrees_iff 80 24 PaneId.label
  exact ⟨by decide, hagree.2 (.inl (by decide)), (hsums (.inl (by decide))).1⟩

/-- With a body of one line, which the grid gives to the panes of its last row, the tree shows all
panes side by side in a row of no lines. -/
theorem layout_tree_disagrees_on_low_screen :
    let tree := Placed.body ((geometry 80 5).hang PaneId.label)
    ("output", ⟨3, 0, 1, 40⟩) ∈ (geometry 80 5).byName
      ∧ tree.regions 3 0 1 80
        = [("registers", ⟨3, 0, 0, 40⟩), ("data", ⟨3, 40, 0, 40⟩), ("output", ⟨3, 80, 0, 40⟩),
          ("instructions", ⟨3, 120, 0, 40⟩), ("stack", ⟨3, 160, 0, 40⟩), ("log", ⟨3, 200, 0, 40⟩)]
      ∧ ¬ (tree.regions 3 0 1 80).Perm (geometry 80 5).byName := by
  refine ⟨by decide, by cbv, fun hagree => ?_⟩
  have hnone := none_of_flat _ _ _ (screenRows_ne_nil 80 5) (by decide) (by decide) _ _ hagree
  exact absurd hnone.1 (by decide)

end Screen

end Stepboard
