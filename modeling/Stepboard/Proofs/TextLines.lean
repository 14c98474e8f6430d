import Mathlib.Data.List.Infix
import Stepboard.Board.Content
import Stepboard.Proofs.Windows
/-!
# The lines of a text

A text that comes in one piece has its tabs expanded before it is cut into lines; a file is cut
first. The column in which a tab stands counts from the last line break, so cutting a text whose
first character stands in some column goes with expanding it from there
(`splitLines_expandTabsFrom`). The lines of a text are those of a file that holds it just if line
feed and carriage return are the only breaks in it: a file is cut at no others, and no character
but a break or a tab is lost from its lines (`exists_line_of_isInfix`).
-/

namespace Stepboard

namespace Text

section Cut

variable {isBreak : Char → Bool}

/-- The lines that a text is cut into hold no breaks, and no other characters than the text. -/
theorem mem_of_mem_splitLines {cs line : List Char} (hline : line ∈ splitLines isBreak cs)
    {c : Char} (hc : c ∈ line) : c ∈ cs ∧ isBreak c = false := by
  fun_induction splitLines isBreak cs generalizing line with
  | case1 => simp at hline
  | case2 cs ih =>
    rcases List.mem_cons.1 hline with rfl | hline
    · cases hc
    · exact (ih hline hc).imp_left fun h => List.mem_cons_of_mem _ (List.mem_cons_of_mem _ h)
  | case3 d cs _ _ ih =>
    rcases List.mem_cons.1 hline with rfl | hline
    · cases hc
    · exact (ih hline hc).imp_left (List.mem_cons_of_mem d)
  | case4 d cs _ hd =>
    cases List.mem_singleton.1 hline
    cases List.mem_singleton.1 hc
    exact ⟨List.mem_cons_self, by simpa using hd⟩
  | case5 d cs _ hd first lines hsplit ih =>
    rw [hsplit] at ih
    rcases List.mem_cons.1 hline with rfl | hline
    · rcases List.mem_cons.1 hc with rfl | hc
      · exact ⟨List.mem_cons_self, by simpa using hd⟩
      · exact (ih List.mem_cons_self hc).imp_left (List.mem_cons_of_mem d)
    · exact (ih (List.mem_cons_of_mem _ hline) hc).imp_left (List.mem_cons_of_mem d)

variable (hreturn : isBreak '\r' = true)
include hreturn

theorem splitLines_congr {p : Char → Bool} {cs : List Char} (h : ∀ c ∈ cs, p c = isBreak c) :
    splitLines p cs = splitLines isBreak cs := by
  fun_induction splitLines p cs with
  | case1 => rfl
  | case2 cs ih =>
    rw [splitLines, ih fun c hc => h c (List.mem_cons_of_mem _ (List.mem_cons_of_mem _ hc))]
  | case3 c cs hboth hc ih =>
    obtain ⟨hp, hcs⟩ := List.forall_mem_cons.1 h
    rw [splitLines_newline (hp ▸ hc) fun hc rest hrest => hboth rest hc hrest, ih hcs]
  | case4 c cs _ hc hsplit ih =>
    obtain ⟨hp, hcs⟩ := List.forall_mem_cons.1 h
    rw [splitLines_cons hreturn (by simpa [hp] using hc), ← ih hcs, hsplit, beforeFirst]
  | case5 c cs _ hc line lines hsplit ih =>
    obtain ⟨hp, hcs⟩ := List.forall_mem_cons.1 h
    rw [splitLines_cons hreturn (by simpa [hp] using hc), ← ih hcs, hsplit, beforeFirst]

variable (hfeed : isBreak '\n' = true)
include hfeed

/-- A line of a text is the end of a line of the text with a character before it. -/
theorem exists_line_of_cons (c : Char) {cs line : List Char} (h : line ∈ splitLines isBreak cs) :
    ∃ longer ∈ splitLines isBreak (c :: cs), line <:+ longer := by
  by_cases hboth : c = '\r' ∧ ∃ rest, cs = '\n' :: rest
  · -- The two break the text in one place, as the line feed does alone.
    obtain ⟨rfl, rest, rfl⟩ := hboth
    refine ⟨line, ?_, List.suffix_refl line⟩
    rw [splitLines_newline hfeed fun h => absurd h (by decide)] at h
    exact h
  rcases hc : isBreak c with _ | _
  · rw [splitLines_cons hreturn hc]
    cases hsplit : splitLines isBreak cs with
    | nil => simp [hsplit] at h
    | cons first lines =>
      rw [hsplit] at h
      rcases List.mem_cons.1 h with rfl | h
      · exact ⟨c :: line, List.mem_cons_self, List.suffix_cons c line⟩
      · exact ⟨line, List.mem_cons_of_mem _ h, List.suffix_refl line⟩
  · rw [splitLines_newline hc fun hc rest hrest => hboth ⟨hc, rest, hrest⟩]
    exact ⟨line, List.mem_cons_of_mem _ h, List.suffix_refl line⟩

/-- A stretch of a text without breaks is within one of its lines. -/
theorem exists_line_of_isInfix {part cs : List Char} (ne : part ≠ [])
    (plain : ∀ c ∈ part, isBreak c = false) (h : part <:+: cs) :
    ∃ line ∈ splitLines isBreak cs, part <:+: line := by
  obtain ⟨before, after, rfl⟩ := h
  rw [List.append_assoc]
  induction before with
  | nil =>
    rw [List.nil_append, splitLines_append hreturn plain]
    cases splitLines isBreak after with
    | nil =>
      rw [foldr_beforeFirst_nil ne]
      exact ⟨part, List.mem_singleton_self part, List.infix_refl part⟩
    | cons line lines =>
      rw [foldr_beforeFirst_cons]
      exact ⟨part ++ line, List.mem_cons_self, (List.prefix_append part line).isInfix⟩
  | cons c before ih =>
    obtain ⟨line, hline, hpart⟩ := ih
    obtain ⟨longer, hlonger, hline⟩ := exists_line_of_cons hreturn hfeed c hline
    exact ⟨longer, hlonger, hpart.trans hline.isInfix⟩

end Cut

section Tabs

theorem isLineBreak_of_isNewline {c : Char} (h : isNewline c = true) : isLineBreak c = true := by
  rcases (isNewline_iff c).1 h with rfl | rfl <;> rfl

theorem expandTabsFrom_newline {c : Char} (h : isNewline c = true) (col : Nat) (cs : List Char) :
    expandTabsFrom col (c :: cs) = c :: expandTabsFrom 0 cs := by
  rcases (isNewline_iff c).1 h with rfl | rfl <;> simp [expandTabsFrom]

/-- A character that breaks no line comes out as some such characters, from which what follows is
expanded in some column. -/
theorem expandTabsFrom_cons {c : Char} (h : isNewline c = false) (col : Nat) :
    ∃ cells next, cells ≠ [] ∧ (∀ d ∈ cells, isNewline d = false)
      ∧ ∀ cs, expandTabsFrom col (c :: cs) = cells ++ expandTabsFrom next cs := by
  by_cases htab : c = '\t'
  · have hgap : 0 < tabWidth - col % tabWidth :=
      Nat.sub_pos_of_lt (Nat.mod_lt col (by decide))
    refine ⟨List.replicate (tabWidth - col % tabWidth) ' ', col + (tabWidth - col % tabWidth),
      by simpa using Nat.ne_of_gt hgap, fun d hd => ?_,
      fun cs => by rw [expandTabsFrom, if_pos htab]⟩
    rw [List.eq_of_mem_replicate hd]
    rfl
  · have hplain : ¬ (c = '\n' ∨ c = '\r') := (isNewline_iff c).not.1 (by simp [h])
    exact ⟨[c], col + 1, List.cons_ne_nil c [], by simpa using h, fun cs => by
      rw [expandTabsFrom, if_neg htab, if_neg hplain, List.singleton_append]⟩

theorem head_of_expandTabsFrom {col : Nat} {cs rest : List Char}
    (h : expandTabsFrom col cs = '\n' :: rest) : ∃ rest', cs = '\n' :: rest' := by
  cases cs with
  | nil => cases h
  | cons c cs =>
    rcases hc : isNewline c with _ | _
    · obtain ⟨cells, next, ne, hcells, hexpand⟩ := expandTabsFrom_cons hc col
      obtain ⟨d, cells, rfl⟩ := List.exists_cons_of_ne_nil ne
      rw [hexpand, List.cons_append, List.cons.injEq] at h
      exact absurd (h.1 ▸ hcells d List.mem_cons_self) (by decide)
    · rw [expandTabsFrom_newline hc, List.cons.injEq] at h
      exact ⟨cs, by rw [h.1]⟩

/-- Expands the tabs of lines, the first of which starts in a column and the others at the left. -/
def expandLinesFrom (col : Nat) : List (List Char) → List (List Char)
  | [] => []
  | line :: lines => expandTabsFrom col line :: lines.map expandTabs

theorem expandLinesFrom_zero (lines : List (List Char)) :
    expandLinesFrom 0 lines = lines.map expandTabs := by
  cases lines <;> rfl

/-- A text that starts in a column is cut into the same lines before its tabs are expanded and
after. -/
theorem splitLines_expandTabsFrom (col : Nat) (cs : List Char) :
    splitLines isNewline (expandTabsFrom col cs)
      = expandLinesFrom col (splitLines isNewline cs) := by
  -- A break takes the column back to the left, so the column is not fixed in the induction.
  fun_induction splitLines isNewline cs generalizing col with
  | case1 => rfl
  | case2 cs ih =>
    rw [expandTabsFrom_newline rfl, expandTabsFrom_newline rfl, splitLines, ih,
      expandLinesFrom_zero]
    rfl
  | case3 c cs hboth hc ih =>
    have hexpanded : c = '\r' → ∀ rest, expandTabsFrom 0 cs ≠ '\n' :: rest := by
      intro hreturn rest hrest
      obtain ⟨rest', hrest'⟩ := head_of_expandTabsFrom hrest
      exact hboth rest' hreturn hrest'
    rw [expandTabsFrom_newline hc, splitLines_newline hc hexpanded, ih, expandLinesFrom_zero]
    rfl
  | case4 c cs _ hc hsplit ih =>
    obtain ⟨cells, next, ne, hcells, hexpand⟩ := expandTabsFrom_cons (by simpa using hc) col
    rw [hexpand, splitLines_append rfl hcells, ih, hsplit, expandLinesFrom,
      foldr_beforeFirst_nil ne, expandLinesFrom, hexpand, expandTabsFrom, List.append_nil,
      List.map_nil]
  | case5 c cs _ hc line lines hsplit ih =>
    obtain ⟨cells, next, ne, hcells, hexpand⟩ := expandTabsFrom_cons (by simpa using hc) col
    rw [hexpand, splitLines_append rfl hcells, ih, hsplit, expandLinesFrom,
      foldr_beforeFirst_cons, expandLinesFrom, hexpand]

theorem mem_expandTabsFrom_of_mem {c : Char} (htab : c ≠ '\t') :
    ∀ {cs : List Char}, c ∈ cs → ∀ col, c ∈ expandTabsFrom col cs
  | d :: cs, h, col => by
    rcases List.mem_cons.1 h with rfl | h
    · rw [expandTabsFrom, if_neg htab]
      split_ifs <;> exact List.mem_cons_self
    · rw [expandTabsFrom]
      split_ifs
      · exact List.mem_append_right _ (mem_expandTabsFrom_of_mem htab h _)
      · exact List.mem_cons_of_mem _ (mem_expandTabsFrom_of_mem htab h _)
      · exact List.mem_cons_of_mem _ (mem_expandTabsFrom_of_mem htab h _)

theorem fileLines_eq (cs : List Char) :
    fileLines cs = (splitLines isNewline (expandTabs cs)).map String.ofList := by
  rw [expandTabs, splitLines_expandTabsFrom, expandLinesFrom_zero, List.map_map]
  rfl

/-- The lines of a text are those of a file just if it has no breaks but those of a file. -/
theorem textLines_eq_fileLines_iff (s : String) :
    textLines s = fileLines s.toList
      ↔ ∀ c ∈ s.toList, isLineBreak c = true → isNewline c = true := by
  rw [textLines, fileLines_eq]
  constructor
  · -- A break that ends no line of a file stays within one, and a line of a text has none.
    intro h c hc hbreak
    rcases hplain : isNewline c with _ | _
    · have htab : c ≠ '\t' := by
        rintro rfl
        exact absurd hbreak (by decide)
      have hstretch : [c] <:+: expandTabs s.toList :=
        (List.singleton_infix_iff c _).2 (mem_expandTabsFrom_of_mem htab hc 0)
      obtain ⟨line, hline, hpart⟩ : ∃ line ∈ splitLines isNewline (expandTabs s.toList),
          [c] <:+: line :=
        exists_line_of_isInfix rfl rfl (List.cons_ne_nil c []) (by simpa using hplain) hstretch
      rw [List.map_inj_right fun _ _ => String.ofList_inj.1] at h
      have hnone := (mem_of_mem_splitLines (h ▸ hline) (hpart.mem List.mem_cons_self)).2
      exact absurd hbreak (by simp [hnone])
    · rfl
  · intro h
    refine congrArg _ (splitLines_congr rfl fun c hc => ?_)
    rcases mem_expandTabsFrom _ _ hc with rfl | ⟨hmem, -⟩
    · rfl
    · exact Bool.eq_iff_iff.2 ⟨h c hmem, isLineBreak_of_isNewline⟩

/-- The lines of a text hold no tabs and no line breaks. -/
theorem mem_of_mem_textLines {s line : String} (hline : line ∈ textLines s) {c : Char}
    (hc : c ∈ line.toList) : c ≠ '\t' ∧ isLineBreak c = false := by
  obtain ⟨chars, hchars, rfl⟩ := List.mem_map.1 hline
  rw [String.toList_ofList] at hc
  obtain ⟨hmem, hplain⟩ := mem_of_mem_splitLines hchars hc
  refine ⟨?_, hplain⟩
  rcases mem_expandTabsFrom _ _ hmem with rfl | ⟨-, htab⟩
  · decide
  · exact htab

end Tabs

end Text

/-- A file that holds a text. -/
def LogFile.ofText (s : String) : LogFile :=
  .ok (Utf8.encode s.toList)

theorem LogFile.lines_ofText (s : String) : (ofText s).lines = Text.fileLines s.toList := by
  rw [ofText, lines, Utf8.decode_encode]

theorem LogFile.read_of_lineCount_le {file : LogFile} {height : Int}
    (h : file.lineCount ≤ height) : file.read 0 height = file.lines := by
  have hlength : file.lines.length ≤ height.toNat := by
    unfold lineCount at h
    omega
  rw [read, Int.toNat_zero, List.drop_zero, List.take_of_length_le hlength]

namespace Content

/-- The lines of a text that is shown in one piece are those that are read of a file that holds it
just if its only line breaks are line feeds and carriage returns, alone or together. They hold
neither tabs nor line breaks. -/
theorem text_lines_are_read_iff (s : String) :
    ((∀ height : Int, (LogFile.ofText s).lineCount ≤ height →
          (LogFile.ofText s).read 0 height = (ofText s).lines)
        ↔ ∀ c ∈ s.toList, Text.isLineBreak c = true → c = '\n' ∨ c = '\r')
      ∧ ∀ line ∈ (ofText s).lines, ∀ c ∈ line.toList, c ≠ '\t' ∧ Text.isLineBreak c = false := by
  have hlines : (ofText s).lines = Text.textLines s := rfl
  simp only [← Text.isNewline_iff, hlines, ← Text.textLines_eq_fileLines_iff,
    ← LogFile.lines_ofText]
  refine ⟨⟨fun h => ?_, fun h height hheight => ?_⟩, fun line hline c hc =>
    Text.mem_of_mem_textLines hline hc⟩
  · rw [← h _ (Int.le_refl _), LogFile.read_of_lineCount_le (Int.le_refl _)]
  · rw [LogFile.read_of_lineCount_le hheight, h]

/-- Tabs in several columns, both line breaks and each alone, and a last line that nothing ends. -/
def mixedBreaks : String := "ab\tc\r\n\td\r\r\n\ne\t"

theorem mixedBreaks_lines_are_read :
    (∀ c ∈ mixedBreaks.toList, Text.isLineBreak c = true → c = '\n' ∨ c = '\r')
      ∧ (LogFile.ofText mixedBreaks).read 0 5 = (ofText mixedBreaks).lines
      ∧ (ofText mixedBreaks).lines = ["ab      c", "        d", "", "", "e       "] := by
  have hbreaks : ∀ c ∈ mixedBreaks.toList, Text.isLineBreak c = true → c = '\n' ∨ c = '\r' := by
    simp [mixedBreaks, Text.isLineBreak]
  exact ⟨hbreaks, (text_lines_are_read_iff mixedBreaks).1.2 hbreaks 5 (by decide),
    by decide +kernel⟩

end Content

end Stepboard
