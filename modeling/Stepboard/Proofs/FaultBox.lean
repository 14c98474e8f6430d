import Mathlib.Data.List.Infix
import Stepboard.Proofs.CollapsedLines
import Stepboard.Proofs.DrawnLines
import Stepboard.Proofs.TextLines
import Stepboard.Screen.Panels
import Stepboard.Text.Split
/-!
# The fault box and its text

The height of the fault box is measured by the text in it, and is always enough. Its width is
measured by the lines of the message as it came, where all line breaks count. The text in the box
has one more line, below the message, and of the breaks in the message only the line feeds. So the
box is wide enough just if some line of the message is about as long as the one below it, and none
is drawn longer than those that were measured (`fits_overlayWidth_iff`).
-/

namespace Stepboard

section Lines

variable {sep : Char}

theorem splitAt_eq_splitOn (cs : List Char) : Text.splitAt sep cs = cs.splitOn sep := by
  rw [← List.splitOn_intercalate sep (fun _ => Text.not_mem_of_mem_splitAt)
    (Text.splitAt_ne_nil sep cs), Text.intercalate_splitAt]

theorem length_splitOn (cs : List Char) : (cs.splitOn sep).length = cs.count sep + 1 := by
  induction cs with
  | nil => rfl
  | cons c cs ih =>
    rw [List.splitOn_cons_eq_if_modifyHead, List.count_cons]
    split_ifs
    · rw [List.length_cons, ih]
    · rw [List.length_modifyHead, ih]

theorem splitOn_filter {p : Char → Bool} (h : p sep = true) (cs : List Char) :
    (cs.filter p).splitOn sep = (cs.splitOn sep).map (List.filter p) := by
  induction cs with
  | nil => rfl
  | cons c cs ih =>
    obtain ⟨first, rest, hsplit⟩ := List.exists_cons_of_ne_nil (List.splitOn_ne_nil sep cs)
    rw [hsplit] at ih
    rcases hc : c == sep with _ | _
    · rcases hp : p c with _ | _
      · simp [List.splitOn_cons_eq_if_modifyHead, hc, hp, hsplit, ih]
      · simp [List.splitOn_cons_eq_if_modifyHead, hc, hp, hsplit, ih]
    · have hp : p c = true := (beq_iff_eq.1 hc) ▸ h
      simp [List.splitOn_cons_eq_if_modifyHead, hc, hp, hsplit, ih]

theorem isInfix_of_mem_splitOn {cs part : List Char} (h : part ∈ cs.splitOn '\n') :
    part <:+: cs := by
  obtain ⟨k, hk, rfl⟩ := List.getElem_of_mem h
  exact ⟨_, _, (intercalate_eq_around _ k hk).symm.trans (List.intercalate_splitOn '\n')⟩

theorem not_mem_of_mem_splitOn {cs part : List Char} (h : part ∈ cs.splitOn sep) : sep ∉ part :=
  Text.not_mem_of_mem_splitAt (splitAt_eq_splitOn cs ▸ h)

end Lines

section Text

/-- The line of the fault box below the message. -/
def overlayHint : List Char :=
  "press any key to continue".toList

/-- The lines of the text in the fault box. -/
def overlayLines (message : String) : List (List Char) :=
  (overlayText message).plain.splitOn '\n'

/-- The lines of the message in the fault box: of the message without white space around it and
without the characters that are not drawn. -/
def messageLines (message : String) : List (List Char) :=
  (drawnChars (Text.strip message)).splitOn '\n'

variable (message : String)

theorem plain_overlayText : (overlayText message).plain
    = drawnChars (if (Text.strip message).isEmpty then unnamedFault else Text.strip message)
      ++ '\n' :: '\n' :: overlayHint := by
  have hblank : drawnChars "\n\n" = ['\n', '\n'] := by decide
  have hhint : drawnChars "press any key to continue" = overlayHint := by decide
  rw [overlayText]
  simp only [StyledText.append_eq, hblank, hhint, List.nil_append, List.append_assoc,
    List.cons_append]

theorem length_overlayLines :
    (overlayLines message).length = (overlayText message).plain.count '\n' + 1 :=
  length_splitOn _

/-- The lines in the fault box are those of the message, or of the name of a fault that has none,
then a blank line and the line below. -/
theorem overlayLines_eq :
    overlayLines message = messageLines message ++ [[], overlayHint]
      ∨ overlayLines message = [unnamedFault.toList, [], overlayHint]
        ∧ messageLines message = [[]] := by
  rw [overlayLines, plain_overlayText, List.splitOn_append_cons_self, messageLines]
  split_ifs with h
  · right
    rw [String.isEmpty_iff] at h
    rw [h]
    decide
  · left
    rfl

theorem length_le_longestLine {line : List Char}
    (h : line ∈ Text.splitLines Text.isLineBreak message.toList) :
    line.length ≤ longestLine message := by
  have hmem := List.mem_map_of_mem (f := List.length) h
  rw [longestLine, List.foldl_max_eq_max (List.ne_nil_of_mem hmem)]
  exact (List.le_max_of_mem hmem).trans (Nat.le_max_right _ _)

variable {message}

/-- The lines in the fault box fit some columns if the line below the message does, which has 25
characters, and the lines of the message do. -/
theorem overlayLines_le_iff {n : Int} :
    (∀ line ∈ overlayLines message, (line.length : Int) ≤ n)
      ↔ 25 ≤ n ∧ ∀ line ∈ messageLines message, (line.length : Int) ≤ n := by
  have hhint : overlayHint.length = 25 := by decide
  rcases overlayLines_eq message with heq | ⟨heq, hnone⟩
  · rw [heq, List.forall_mem_append]
    simp only [List.forall_mem_cons, hhint, List.length_nil]
    constructor
    · rintro ⟨hlines, -, h25, -⟩
      exact ⟨h25, hlines⟩
    · rintro ⟨h25, hlines⟩
      exact ⟨hlines, by omega, h25, by simp⟩
  · have hname : unnamedFault.toList.length = 15 := by decide
    simp only [heq, hnone, List.forall_mem_cons, hhint, hname, List.length_nil]
    constructor
    · rintro ⟨-, -, h25, -⟩
      exact ⟨h25, by omega, by simp⟩
    · rintro ⟨h25, -⟩
      exact ⟨by omega, by omega, h25, by simp⟩

end Text

section Measures

variable {message : String} {width height : Int}

theorem overlayHeight_eq (h : ((overlayLines message).length : Int) + 4 ≤ height) :
    overlayHeight message height = (overlayLines message).length + 4 := by
  rw [length_overlayLines] at h ⊢
  unfold overlayHeight
  omega

section Width

variable (hwidth : ∀ line ∈ overlayLines message, (line.length : Int) + 6 ≤ width - 4)
include hwidth

theorem room_for_messageLines :
    25 ≤ width - 10 ∧ ∀ line ∈ messageLines message, (line.length : Int) ≤ width - 10 := by
  refine overlayLines_le_iff.1 fun line hline => ?_
  have := hwidth line hline
  omega

theorem overlayWidth_le : overlayWidth message width ≤ width := by
  obtain ⟨hhint, -⟩ := room_for_messageLines hwidth
  unfold overlayWidth
  omega

theorem fits_overlayWidth_iff :
    (∀ line ∈ overlayLines message, (line.length : Int) ≤ overlayWidth message width - 4)
      ↔ 23 ≤ longestLine message
        ∧ ∀ line ∈ messageLines message, line.length ≤ longestLine message + 2 := by
  -- The screen leaves room for every line, so only the measure of the message can be too small.
  obtain ⟨hhint, hlines⟩ := room_for_messageLines hwidth
  rw [overlayLines_le_iff]
  unfold overlayWidth
  constructor
  · rintro ⟨h25, hfits⟩
    refine ⟨by omega, fun line hline => ?_⟩
    have := hfits line hline
    omega
  · rintro ⟨hlong, hfits⟩
    refine ⟨by omega, fun line hline => ?_⟩
    have hline' := hfits line hline
    have hroom := hlines line hline
    omega

end Width

/-- Where only line feeds break the lines of a message, none of them is drawn longer than it is. -/
theorem length_messageLines_le
    (h : ∀ c ∈ message.toList, Text.isLineBreak c = true → c = '\n') {line : List Char}
    (hline : line ∈ messageLines message) : line.length ≤ longestLine message := by
  rw [messageLines, drawnChars, Text.toList_strip, splitOn_filter (by decide)] at hline
  obtain ⟨part, hpart, rfl⟩ := List.mem_map.1 hline
  -- What is drawn of a line comes from a stretch of the message between two line feeds.
  refine (List.length_filter_le _ part).trans ?_
  obtain ⟨before, after, htrim, -⟩ := Text.exists_around_trim message.toList
  have hstretch : part <:+: message.toList :=
    (isInfix_of_mem_splitOn hpart).trans ⟨before, after, htrim.symm⟩
  have hplain : ∀ c ∈ part, Text.isLineBreak c = false := by
    intro c hc
    rw [Bool.eq_false_iff]
    intro hbreak
    exact not_mem_of_mem_splitOn hpart (h c (hstretch.mem hc) hbreak ▸ hc)
  by_cases ne : part = []
  · simp [ne]
  · obtain ⟨whole, hwhole, hwithin⟩ := Text.exists_line_of_isInfix rfl rfl ne hplain hstretch
    exact hwithin.length_le.trans (length_le_longestLine message hwhole)

/-- Where the screen has room for the text and some columns and rows around it, the fault box is
within the screen and high enough. It is wide enough just if the longest line of the message has 23
characters or more and no line is drawn more than two characters longer than that; and none is if
only line feeds break the lines of the message. -/
theorem overlay_holds_text_iff
    (hwidth : ∀ line ∈ overlayLines message, (line.length : Int) + 6 ≤ width - 4)
    (hheight : ((overlayLines message).length : Int) + 4 ≤ height) :
    ∃ frame block, errorOverlay message width height
        = .centred (some "middle") (some height)
            (.panel frame (.centred (some "middle") none (.text block)))
      ∧ frame.padding = (0, 1) ∧ block.text.plain.splitOn '\n' = overlayLines message
      ∧ ∃ boxWidth boxHeight : Int, frame.width = some boxWidth ∧ frame.height = some boxHeight
        ∧ boxWidth ≤ width ∧ boxHeight ≤ height
        ∧ ((overlayLines message).length : Int) ≤ boxHeight - 2
        ∧ ((∀ line ∈ overlayLines message, (line.length : Int) ≤ boxWidth - 4)
          ↔ 23 ≤ longestLine message
            ∧ ∀ line ∈ messageLines message, line.length ≤ longestLine message + 2)
        ∧ ((∀ c ∈ message.toList, Text.isLineBreak c = true → c = '\n') →
          ((∀ line ∈ overlayLines message, (line.length : Int) ≤ boxWidth - 4)
            ↔ 23 ≤ longestLine message)) := by
  have hfits := fits_overlayWidth_iff hwidth
  refine ⟨_, _, rfl, rfl, rfl, _, _, rfl, rfl, overlayWidth_le hwidth, ?_, ?_, hfits,
    fun hfeeds => hfits.trans ?_⟩
  · rw [overlayHeight_eq hheight]
    exact hheight
  · rw [overlayHeight_eq hheight]
    omega
  · refine and_iff_left fun line hline => ?_
    have := length_messageLines_le hfeeds hline
    omega

end Measures

/-- A message with white space around it, a line without text, and a bell. -/
def badAddress : String :=
  "\n Bad address in data read\x07\n\nat 0x400014 \n"

theorem overlay_holds_badAddress :
    (∀ line ∈ overlayLines badAddress, (line.length : Int) + 6 ≤ 80 - 4)
      ∧ ((overlayLines badAddress).length : Int) + 4 ≤ 20
      ∧ ∃ frame block, errorOverlay badAddress 80 20
          = .centred (some "middle") (some 20)
              (.panel frame (.centred (some "middle") none (.text block)))
        ∧ ∃ boxWidth boxHeight : Int, frame.width = some boxWidth ∧ frame.height = some boxHeight
          ∧ boxWidth ≤ 80 ∧ boxHeight ≤ 20
          ∧ ((overlayLines badAddress).length : Int) ≤ boxHeight - 2
          ∧ ∀ line ∈ overlayLines badAddress, (line.length : Int) ≤ boxWidth - 4 := by
  have hwidth : ∀ line ∈ overlayLines badAddress, (line.length : Int) + 6 ≤ 80 - 4 := by
    decide +kernel
  have hheight : ((overlayLines badAddress).length : Int) + 4 ≤ 20 := by decide +kernel
  have hfeeds : ∀ c ∈ badAddress.toList, Text.isLineBreak c = true → c = '\n' := by
    simp [badAddress, Text.isLineBreak]
  obtain ⟨frame, block, hdrawing, -, -, boxWidth, boxHeight, hw, hh, hwide, hhigh, hrows, -,
    hfits⟩ := overlay_holds_text_iff hwidth hheight
  exact ⟨hwidth, hheight, frame, block, hdrawing, boxWidth, boxHeight, hw, hh, hwide, hhigh, hrows,
    (hfits hfeeds).2 (by decide +kernel)⟩

/-- The box of a short message is too narrow for the line below it, on a screen with room enough. -/
theorem overlay_too_narrow_for_hint :
    ((∀ line ∈ overlayLines "Bad address", (line.length : Int) + 6 ≤ 80 - 4)
        ∧ ((overlayLines "Bad address").length : Int) + 4 ≤ 20)
      ∧ overlayWidth "Bad address" 80 = 24
      ∧ ∃ line ∈ overlayLines "Bad address",
        ¬ (line.length : Int) ≤ overlayWidth "Bad address" 80 - 4 := by
  decide +kernel

end Stepboard
