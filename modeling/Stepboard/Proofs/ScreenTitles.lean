import Mathlib.Data.List.Perm.Basic
import Stepboard.Board.Basic
/-!
# Titles on the screen

The body of the screen shows each placed thing once: the rows sort out the things by their top
edges, and a row sorts its own (`contents_body`). So a screen without a fault box shows the six
panes, and as their titles are written when it is drawn, just the one in focus has its title in
brackets (`titles_compose`).
-/

namespace Stepboard

namespace Layout

variable {α : Type}

mutual

/-- What a screen shows, with the names of the regions that show it. -/
def contents : Layout α → List (String × α)
  | .leaf name _ content => [(name, content)]
  | .split _ _ _ children => contentsOfAll children

def contentsOfAll : List (Layout α) → List (String × α)
  | [] => []
  | child :: children => contents child ++ contentsOfAll children

end

theorem contentsOfAll_eq : ∀ children : List (Layout α),
    contentsOfAll children = children.flatMap contents
  | [] => rfl
  | child :: children => by rw [contentsOfAll, contentsOfAll_eq children, List.flatMap_cons]

end Layout

namespace Placed

variable {α : Type}

theorem nodup_eraseDups (l : List Nat) : l.eraseDups.Nodup := by
  cases l with
  | nil => simp
  | cons n l =>
    rw [List.eraseDups_cons, List.nodup_cons]
    exact ⟨by simp, nodup_eraseDups _⟩
termination_by l.length
decreasing_by exact Nat.lt_succ_of_le (List.length_filter_le _ _)

/-- Sorting things out by a number, one number after the other, keeps all of them. -/
theorem flatMap_filter_perm (f : α → Nat) : ∀ {ns : List Nat} {l : List α}, ns.Nodup →
    (∀ a ∈ l, f a ∈ ns) → (ns.flatMap fun n => l.filter (f · == n)).Perm l
  | [], l, _, h => by
    rw [List.eq_nil_iff_forall_not_mem.2 fun a ha => List.not_mem_nil (h a ha)]
    rfl
  | n :: ns, l, hnodup, h => by
    obtain ⟨hn, hns⟩ := List.nodup_cons.1 hnodup
    have hrest : (ns.flatMap fun m => l.filter (f · == m))
        = ns.flatMap fun m => (l.filter (!f · == n)).filter (f · == m) := by
      refine List.flatMap_congr fun m hm => ?_
      rw [List.filter_filter]
      refine List.filter_congr fun a _ => ?_
      have hne : m ≠ n := fun he => hn (he ▸ hm)
      rcases hfm : f a == m with _ | _
      · rfl
      · rw [beq_iff_eq] at hfm
        simp [hfm, hne]
    have hleft : ∀ a ∈ l.filter (!f · == n), f a ∈ ns := by
      intro a ha
      obtain ⟨hmem, hne⟩ := List.mem_filter.1 ha
      rcases List.mem_cons.1 (h a hmem) with heq | hin
      · simp [heq] at hne
      · exact hin
    rw [List.flatMap_cons, hrest]
    exact ((flatMap_filter_perm f hns hleft).append_left _).trans (List.filter_append_perm _ l)

theorem contents_row (ps : List (Placed α)) (y : Nat) :
    (row ps y).contents = (rowMembers ps y).map fun p => (p.name, p.content) := by
  unfold row
  rw [Layout.contents, Layout.contentsOfAll_eq, List.flatMap_map]
  exact List.map_eq_flatMap.symm

theorem contents_body (ps : List (Placed α)) :
    (body ps).contents.Perm (ps.map fun p => (p.name, p.content)) := by
  have htops : (rowTops ps).Nodup :=
    (List.mergeSort_perm _ _).nodup_iff.2 (nodup_eraseDups _)
  have hmem : ∀ p ∈ ps, p.rect.y ∈ rowTops ps := by
    intro p hp
    rw [rowTops, List.mem_mergeSort, List.mem_eraseDups]
    exact List.mem_map_of_mem hp
  have hrows : ((rowTops ps).flatMap (rowMembers ps)).Perm ps :=
    (List.Perm.flatMap (.refl _) fun _ _ => List.mergeSort_perm _ _).trans
      (flatMap_filter_perm (fun p : Placed α => p.rect.y) htops hmem)
  rw [body, Layout.contents, Layout.contentsOfAll_eq, List.flatMap_map]
  simp only [contents_row]
  rw [← List.map_flatMap]
  exact hrows.map _

end Placed

/-- The title of a panel. -/
def Drawing.title? : Drawing → Option String
  | .panel frame _ => some frame.title.text
  | .text _ | .centred _ _ _ => none

/-- The title of a pane, in brackets if the pane is in focus. -/
def PaneId.titleText (id : PaneId) (focused : Bool) : String :=
  if focused then "[" ++ id.label ++ "]" else id.label

theorem map_fst_geometry (width height : Int) :
    (geometry width height).map Prod.fst = PaneId.all := by
  unfold geometry
  cases GridMode.ofWidth width.toNat <;> rfl

namespace Board

theorem title_drawing {p : Pane} {id : PaneId} (h : p.label = id.label) (focused : Bool) :
    (p.drawTitle focused).drawing.title? = some (id.titleText focused) := by
  have htitle : (p.drawTitle focused).drawing.title?
      = some (StyledText.ofString (p.titleText focused) boldStyle).text := rfl
  rw [htitle, Pane.titleText, h]
  cases id <;> cases focused <;> decide

theorem isFocused_eq (b : Board) (id : PaneId) :
    b.isFocused id = decide (id = b.focus.current) := by
  unfold isFocused Focus.isOn
  cases id <;> cases b.focus.current <;> rfl

/-- Without a fault box, a screen has the titles of the header and of the six panes, and just the
title of the pane in focus is in brackets. -/
theorem titles_compose {b : Board} (ho : b.overlay = none)
    (hl : ∀ id, (b.panes id).label = id.label) :
    (b.compose.2.contents.map fun c => (c.1, c.2.title?)).Perm
      (("header", some "SPIM Dashboard") :: ("help", none)
        :: PaneId.all.map fun id => (id.name, some (id.titleText (id = b.focus.current)))) := by
  have hpanes : b.drawTitles.body.contents.Perm (PaneId.all.map fun id =>
      (id.name, ((b.panes id).drawTitle (b.isFocused id)).drawing)) := by
    have hbody : b.drawTitles.body = Placed.body b.drawTitles.placedPanes := by
      unfold body drawTitles
      rw [ho]
    rw [hbody, ← map_fst_geometry b.width b.height, List.map_map]
    refine (Placed.contents_body _).trans ?_
    unfold placedPanes drawTitles
    rw [ho, List.map_map]
    rfl
  have htitles := hpanes.map fun c => (c.1, c.2.title?)
  simp only [List.map_map, Function.comp_def, title_drawing (hl _), isFocused_eq] at htitles
  have hscreen : b.compose.2.contents = ("header", b.drawTitles.header.drawing)
      :: (b.drawTitles.body.contents ++ [("help", helpLine)]) := by
    unfold compose screen
    simp [Layout.contents, Layout.contentsOfAll]
  rw [hscreen, List.map_cons, List.map_append]
  refine .cons _ ((List.perm_append_comm).trans ?_)
  exact .cons _ htitles

end Board

end Stepboard
