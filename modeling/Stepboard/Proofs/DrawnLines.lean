import Mathlib.Tactic.SplitIfs
import Stepboard.Screen.Pane
/-!
# What a pane draws

The text that a pane draws is the lines of its window, one below the other, without the characters
that are dropped from shown text (`bodyText_eq`). Its spans lie over the styled lines and no others,
each over its own line (`spansFrom_eq`).
-/

namespace Stepboard

theorem isDropped_eq (c : Char) :
    isDropped c = decide (c ∈ ['\x07', '\x08', '\x0b', '\x0c', '\r']) := by
  have hcode : ∀ d : Char, c.toNat = d.toNat ↔ c = d := fun d => Char.toNat_inj
  rw [Bool.eq_iff_iff, decide_eq_true_iff]
  simp only [isDropped, Bool.or_eq_true, beq_iff_eq, List.mem_cons, List.not_mem_nil, or_false,
    ← hcode, or_assoc]
  rfl

/-- The characters of a line that are drawn: not a bell, a backspace, a vertical tab, a form feed or
a carriage return. -/
def drawnChars (line : String) : List Char :=
  line.toList.filter (· ∉ ['\x07', '\x08', '\x0b', '\x0c', '\r'])

theorem shownChars_toList (line : String) : shownChars line.toList = drawnChars line :=
  List.filter_congr fun c _ => by rw [isDropped_eq, decide_not]

section Joined

/-- What comes before a line in a text of lines. -/
def textBefore (lines : List (List Char)) (k : Nat) : List Char :=
  (lines.take k).flatMap (· ++ ['\n'])

@[simp] theorem textBefore_zero (lines : List (List Char)) : textBefore lines 0 = [] := rfl

@[simp] theorem textBefore_succ (line : List Char) (lines : List (List Char)) (k : Nat) :
    textBefore (line :: lines) (k + 1) = line ++ '\n' :: textBefore lines k := by
  simp [textBefore]

theorem intercalate_cons_eq (line : List Char) (lines : List (List Char)) :
    ['\n'].intercalate (line :: lines) = line ++ lines.flatMap ('\n' :: ·) := by
  induction lines generalizing line with
  | nil => simp
  | cons next lines ih => simp [List.intercalate_cons_cons, ih]

theorem intercalate_eq_around (lines : List (List Char)) (k : Nat) (hk : k < lines.length) :
    ['\n'].intercalate lines
      = textBefore lines k ++ lines[k] ++ (lines.drop (k + 1)).flatMap ('\n' :: ·) := by
  induction lines generalizing k with
  | nil => exact absurd hk (Nat.not_lt_zero k)
  | cons line lines ih =>
    cases k with
    | zero => simp [intercalate_cons_eq]
    | succ k =>
      have hk' : k < lines.length := Nat.lt_of_succ_lt_succ hk
      rcases lines with _ | ⟨next, lines⟩
      · exact absurd hk' (Nat.not_lt_zero k)
      · rw [List.intercalate_cons_cons, ih k hk']
        simp

end Joined

namespace StyledText

/-- The span over a line that begins at an offset. -/
def lineSpan (offset : Nat) (style : Style) (line : String) : Option Span :=
  if line = "" ∨ style = "" then none
  else some ⟨offset, offset + (drawnChars line).length, style⟩

theorem append_eq (t : StyledText) (s : String) (style : Style) :
    t.append s style = { t with
      plain := t.plain ++ drawnChars s
      spans := t.spans ++ (lineSpan t.plain.length style s).toList } := by
  unfold append appendChars lineSpan
  rw [shownChars_toList]
  by_cases hs : s = ""
  · simp [hs, drawnChars]
  · by_cases hstyle : style = "" <;> simp [hs, hstyle]

theorem append_newline (t : StyledText) :
    t.append "\n" = { t with plain := t.plain ++ ['\n'] } := by
  have hbreak : drawnChars "\n" = ['\n'] := rfl
  rw [append_eq, hbreak]
  simp [lineSpan]

end StyledText

namespace Pane

open StyledText (lineSpan)

section Spans

variable (styles : LineStyles)

/-- The spans over lines numbered from `line` on, the first of which begins at an offset. -/
def spansFrom : Nat → Nat → List String → List Span
  | _, _, [] => []
  | offset, line, s :: rest =>
    (lineSpan offset (styles.get line) s).toList
      ++ spansFrom (offset + (drawnChars s).length + 1) (line + 1) rest

theorem appendLines_eq : ∀ (lines : List String) (t : StyledText) (line : Nat),
    appendLines styles t line lines = { t with
      plain := t.plain ++ (lines.map drawnChars).flatMap ('\n' :: ·)
      spans := t.spans ++ spansFrom styles (t.plain.length + 1) line lines }
  | [], t, line => by simp [appendLines, spansFrom]
  | s :: rest, t, line => by
    rw [appendLines, appendLines_eq rest, StyledText.append_newline, StyledText.append_eq]
    simp [spansFrom, Nat.add_assoc, Nat.add_comm, Nat.add_left_comm]

/-- Each line begins where those before it end, with a character more for each line break. -/
theorem spansFrom_eq (offset line : Nat) (lines : List String) :
    spansFrom styles offset line lines = lines.zipIdx.filterMap fun (s, k) =>
      lineSpan (offset + (textBefore (lines.map drawnChars) k).length)
        (styles.get ((line + k : Nat) : Int)) s := by
  induction lines generalizing offset line with
  | nil => rfl
  | cons s rest ih =>
    have hshift : ∀ x : String × Nat,
        lineSpan (offset + (drawnChars s).length + 1
            + (textBefore (rest.map drawnChars) x.2).length)
          (styles.get ((line + 1 + x.2 : Nat) : Int)) x.1
        = lineSpan (offset + (textBefore ((s :: rest).map drawnChars)
            (x.2 + 1)).length) (styles.get ((line + (x.2 + 1) : Nat) : Int)) x.1 := by
      intro x
      rw [List.map_cons, textBefore_succ, List.length_append, List.length_cons,
        Nat.add_right_comm line, Nat.add_assoc line]
      congr 1
      omega
    rw [spansFrom, ih, List.zipIdx_cons, List.zipIdx_succ, List.filterMap_cons, List.filterMap_map]
    simp only [hshift, Function.comp_def]
    rw [textBefore_zero, List.length_nil, Nat.add_zero, Nat.add_zero]
    cases lineSpan offset (styles.get line) s <;> rfl

end Spans

section BodyText

/-- The lines shown, by the characters that are drawn. -/
def shownLines (p : Pane) : List (List Char) :=
  p.window.map drawnChars

variable (p : Pane)

theorem bodyText_eq : p.bodyText =
    { plain := ['\n'].intercalate p.shownLines
      spans := spansFrom p.styles 0 p.visibleStart p.window } := by
  unfold bodyText shownLines
  rcases p.window with _ | ⟨s, rest⟩
  · rfl
  · dsimp only
    rw [appendLines_eq, StyledText.append_eq, List.map_cons, intercalate_cons_eq]
    simp [spansFrom]

theorem window_eq_nil_iff : p.window = [] ↔ p.content = [] ∨ p.innerHeight = 0 := by
  have hstart : p.visibleStart - p.origin ≤ p.content.length - 1 := by
    unfold visibleStart
    omega
  rw [window, List.map_eq_nil_iff, List.take_eq_nil_iff, List.drop_eq_nil_iff,
    ← List.length_eq_zero_iff]
  omega

theorem length_window_le : p.window.length ≤ p.innerHeight := by
  rw [window, List.length_map]
  exact List.length_take_le ..

theorem origin_le_visibleStart : p.origin ≤ p.visibleStart := by
  unfold visibleStart
  omega

variable {p}

theorem exists_content_of_window {k : Nat} (hk : k < p.window.length) :
    ∃ line, p.content[p.visibleStart - p.origin + k]? = some line
      ∧ p.window[k]
        = String.ofList ((line.toList.drop p.column.toNat).take p.innerWidth) := by
  have hbound : p.visibleStart - p.origin + k < p.content.length := by
    simp only [window, List.length_map, List.length_take, List.length_drop] at hk
    omega
  refine ⟨_, List.getElem?_eq_getElem hbound, ?_⟩
  simp [window, cutLine]

theorem newline_not_mem_shownLines (h : ∀ line ∈ p.content, '\n' ∉ line.toList) :
    ∀ shown ∈ p.shownLines, '\n' ∉ shown := by
  intro shown hshown
  obtain ⟨line, hline, rfl⟩ := List.mem_map.mp hshown
  obtain ⟨whole, hwhole, rfl⟩ := List.mem_map.mp hline
  have hmem : whole ∈ p.content := List.mem_of_mem_drop (List.mem_of_mem_take hwhole)
  intro hbreak
  rw [drawnChars, cutLine, String.toList_ofList] at hbreak
  exact h whole hmem (List.mem_of_mem_drop (List.mem_of_mem_take (List.mem_filter.mp hbreak).1))

end BodyText

theorem splitOn_bodyText {p : Pane} (h : ∀ line ∈ p.content, '\n' ∉ line.toList)
    (hwindow : p.window ≠ []) : p.bodyText.plain.splitOn '\n' = p.shownLines := by
  rw [bodyText_eq]
  exact List.splitOn_intercalate '\n' (newline_not_mem_shownLines h) (by simpa [shownLines])

theorem bodyText_around (p : Pane) (k : Nat) (hk : k < p.shownLines.length) :
    p.bodyText.plain = textBefore p.shownLines k ++ p.shownLines[k]
      ++ (p.shownLines.drop (k + 1)).flatMap ('\n' :: ·) := by
  rw [← intercalate_eq_around, bodyText_eq]

theorem spans_bodyText (p : Pane) :
    p.bodyText.spans = p.window.zipIdx.filterMap fun (line, k) =>
      lineSpan (textBefore p.shownLines k).length (p.styles.get ((p.visibleStart + k : Nat) : Int))
        line := by
  rw [bodyText_eq]
  simp only [spansFrom_eq, Nat.zero_add]
  rfl

/-- What is drawn of a pane whose lines hold no line breaks: its window, a line of it for each
line of text, and a span over each line of it that is not empty and has a style. -/
theorem drawing_shows_window {p : Pane} (h : ∀ line ∈ p.content, '\n' ∉ line.toList)
    (focused : Bool) :
    ∃ frame body, (p.redraw focused).2
        = .panel frame (.text { text := body, overflow := some "crop", noWrap := some true })
      ∧ (p.window ≠ [] → body.plain.splitOn '\n' = p.shownLines)
      ∧ p.window.length ≤ p.innerHeight
      ∧ (p.window = [] → p.content = [] ∨ p.innerHeight = 0)
      ∧ p.origin ≤ p.visibleStart
      ∧ (∀ (k : Nat) (hk : k < p.window.length), ∃ line,
        p.content[p.visibleStart - p.origin + k]? = some line
          ∧ p.window[k] = String.ofList ((line.toList.drop p.column.toNat).take p.innerWidth))
      ∧ (body.spans = p.window.zipIdx.filterMap fun (line, k) =>
          let style := p.styles.get (p.visibleStart + k)
          let start := (textBefore p.shownLines k).length
          if line = "" ∨ style = "" then none
          else some ⟨start, start + (drawnChars line).length, style⟩)
      ∧ ∀ (k : Nat) (hk : k < p.shownLines.length),
        body.plain = textBefore p.shownLines k ++ p.shownLines[k]
          ++ (p.shownLines.drop (k + 1)).flatMap ('\n' :: ·) := by
  refine ⟨_, p.bodyText, rfl, splitOn_bodyText h, p.length_window_le, p.window_eq_nil_iff.mp,
    p.origin_le_visibleStart, fun _ => exists_content_of_window, ?_, p.bodyText_around⟩
  exact p.spans_bodyText

/-- Three lines in a pane of five columns, shown from the second column of the first line. -/
def threeLines : Pane :=
  { ofRect "Output" ⟨0, 0, 5, 7⟩ with
    row := -1, column := 1, content := ["a\x0cbeta", "", "gamma"],
    styles := [(0, "dim"), (1, "bold"), (2, "reverse")] }

/-- The form feed takes a column, but no place in the text; the empty line has no span. -/
theorem drawing_threeLines :
    ∃ frame body, (threeLines.redraw false).2
        = .panel frame (.text { text := body, overflow := some "crop", noWrap := some true })
      ∧ body.plain.splitOn '\n' = ["beta".toList, [], "amma".toList]
      ∧ body.spans = [⟨0, 4, "dim"⟩, ⟨6, 10, "reverse"⟩] := by
  have hbreaks : ∀ line ∈ threeLines.content, '\n' ∉ line.toList := by decide
  obtain ⟨frame, body, hdrawing, hlines, -, -, -, -, hspans, -⟩ :=
    drawing_shows_window hbreaks false
  exact ⟨frame, body, hdrawing, hlines (by decide), hspans⟩

end Pane

end Stepboard
