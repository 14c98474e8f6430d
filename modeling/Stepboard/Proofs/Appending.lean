import Stepboard.Proofs.FileRows
/-!
# Files that only grow

Bytes added to a file take none of its rows away and leave each at its place (`kept_of_cut`). A row
that was ended keeps its bytes, though a carriage return that ended the file may become one with a
line feed. Only the last row may have no end, and the added bytes go on with it up to the next line
break. So all lines but the last stay as they are, and the last does if it was finished.
-/

namespace Stepboard

namespace LogFile

/-- A row as it may stand after bytes were added to a file: one that nothing ended is gone on with
by these bytes, and any other has the bytes it had. -/
def Row.KeptBy (row : Row) (added : List UInt8) (row' : Row) : Prop :=
  row'.bytes = if row.ending = [] then row.bytes ++ added.takeWhile (!isBreak ·) else row.bytes

/-- The first row has the bytes before the first line break. -/
theorem head_rowsOf {bytes : List UInt8} (h : bytes ≠ []) :
    ∃ row rows, rowsOf bytes = row :: rows ∧ row.bytes = bytes.takeWhile (!isBreak ·) := by
  fun_induction rowsOf bytes with
  | case1 => exact absurd rfl h
  | case2 bytes => exact ⟨_, _, rfl, rfl⟩
  | case3 b bytes _ hb => exact ⟨_, _, rfl, by simp [hb]⟩
  | case4 b bytes _ hb ih =>
    by_cases hnil : bytes = []
    · rw [hnil]
      exact ⟨_, _, rfl, by simp [hb]⟩
    · obtain ⟨row, rows, hrows, hbytes⟩ := ih hnil
      rw [hrows]
      exact ⟨_, _, rfl, by simp [hb, hbytes]⟩

theorem kept_of_cut {bytes : List UInt8} {rows : List Row} (h : Cut bytes rows)
    (added : List UInt8) : ∀ (i : Nat) (row : Row), rows[i]? = some row →
      ∃ row', (rowsOf (bytes ++ added))[i]? = some row' ∧ row.KeptBy added row' := by
  induction h with
  | none => simp
  | @last bytes plain ne =>
    obtain ⟨row', rows', hrows, hbytes⟩ := head_rowsOf (List.append_ne_nil_of_left_ne_nil ne added)
    rw [List.takeWhile_append_of_pos fun b hb => by simp [plain b hb]] at hbytes
    rintro (_ | i) row hrow
    · cases hrow
      exact ⟨row', by rw [hrows]; rfl, hbytes⟩
    · cases hrow
  | @row bytes ending rest rows plain ends whole more ih =>
    have hends : ending ≠ [] := by
      obtain ⟨b, tail, -, rfl⟩ := ending_eq_cons ends
      exact List.cons_ne_nil b tail
    rw [List.append_assoc]
    by_cases hsplit : ending = [0x0D] ∧ (rest ++ added).head? = some 0x0A
    · -- The added bytes begin with the line feed of the last break.
      obtain ⟨rfl, hfeed⟩ := hsplit
      cases rest with
      | cons b rest => exact absurd hfeed (whole rfl)
      | nil =>
        obtain ⟨added', rfl⟩ := List.head?_eq_some_iff.1 hfeed
        obtain rfl : rows = [] := (cut_iff [] rows).1 more
        have hrows : rowsOf (bytes ++ [0x0D, 0x0A] ++ added')
            = ⟨bytes, [0x0D, 0x0A]⟩ :: rowsOf added' :=
          rowsOf_append plain (by decide) (by simp)
        rintro (_ | i) row hrow
        · cases hrow
          refine ⟨⟨bytes, [0x0D, 0x0A]⟩, ?_, (if_neg hends).symm⟩
          rw [show bytes ++ [0x0D] ++ ([] ++ 0x0A :: added') = bytes ++ [0x0D, 0x0A] ++ added'
            by simp, hrows]
          rfl
        · cases hrow
    · rw [rowsOf_append plain ends fun he hfeed => hsplit ⟨he, hfeed⟩]
      rintro (_ | i) row hrow
      · cases hrow
        exact ⟨_, rfl, (if_neg hends).symm⟩
      · exact ih i row hrow

/-- Only the last row may have no end. -/
theorem Cut.last_of_open {bytes : List UInt8} {rows : List Row} (h : Cut bytes rows) :
    ∀ {i : Nat} {row : Row}, rows[i]? = some row → row.ending = [] → i + 1 = rows.length := by
  induction h with
  | none => simp
  | last plain ne =>
    rintro (_ | i) row hrow -
    · rfl
    · cases hrow
  | row plain ends whole more ih =>
    rintro (_ | i) row hrow hopen
    · cases hrow
      obtain ⟨b, tail, -, rfl⟩ := ending_eq_cons ends
      cases hopen
    · rw [List.length_cons, ih hrow hopen]

theorem length_rowsOf_le (bytes added : List UInt8) :
    (rowsOf bytes).length ≤ (rowsOf (bytes ++ added)).length := by
  rcases Nat.eq_zero_or_pos (rowsOf bytes).length with h | h
  · omega
  · have hlast := List.getElem?_eq_getElem (Nat.sub_lt h Nat.one_pos)
    obtain ⟨row', hrow', -⟩ := kept_of_cut (cut_rowsOf bytes) added _ _ hlast
    have := (List.getElem?_eq_some_iff.1 hrow').1
    omega

end LogFile

namespace Text

/-- Some lines of which all but the last stay as they are when `lines'` come of them. -/
structure Continues {α : Type} (lines lines' : List α) : Prop where
  finished : lines.dropLast <+: lines'
  length_le : lines.length ≤ lines'.length

theorem Continues.of_getElem? {α : Type} {lines lines' : List α}
    (hle : lines.length ≤ lines'.length)
    (h : ∀ i, i + 1 < lines.length → lines'[i]? = lines[i]?) : Continues lines lines' := by
  refine ⟨List.prefix_iff_getElem?.2 fun i hi => ?_, hle⟩
  rw [List.length_dropLast] at hi
  rw [h i (by omega), List.getElem_dropLast, List.getElem?_eq_getElem]

theorem Continues.refl {α : Type} (lines : List α) : Continues lines lines :=
  ⟨List.dropLast_prefix lines, Nat.le_refl _⟩

theorem Continues.trans {α : Type} {lines lines' lines'' : List α} (h : Continues lines lines')
    (h' : Continues lines' lines'') : Continues lines lines'' := by
  refine ⟨List.IsPrefix.trans ?_ h'.finished, Nat.le_trans h.length_le h'.length_le⟩
  refine List.prefix_of_prefix_length_le h.finished (List.dropLast_prefix lines') ?_
  have hle := h.length_le
  simp only [List.length_dropLast]
  omega

theorem Continues.getElem? {α : Type} {lines lines' : List α} (h : Continues lines lines')
    {i : Nat} (hi : i + 1 < lines.length) : lines'[i]? = lines[i]? := by
  obtain ⟨more, hmore⟩ := h.finished
  have hlast : i < lines.dropLast.length := by
    rw [List.length_dropLast]
    omega
  rw [← hmore, List.getElem?_append_left hlast, List.getElem?_eq_getElem hlast,
    List.getElem_dropLast, ← List.getElem?_eq_getElem]

end Text

namespace LogFile

/-- What a file may have become if nothing was done but bytes added to its end. A file that could
not be read may be any by now. -/
def Grows : LogFile → LogFile → Prop
  | .ok bytes, file => ∃ more, file = .ok (bytes ++ more)
  | .error _, _ => True

instance : ∀ file file' : LogFile, Decidable (file.Grows file')
  | .error _, _ => .isTrue trivial
  | .ok _, .error _ => .isFalse fun ⟨_, h⟩ => nomatch h
  | .ok bytes, .ok bytes' =>
    decidable_of_iff (bytes <+: bytes') ⟨fun ⟨more, h⟩ => ⟨more, congrArg _ h.symm⟩,
      fun ⟨more, h⟩ => ⟨more, (Except.ok.inj h).symm⟩⟩

theorem continues_of_grows {file file' : LogFile} (h : file.Grows file') :
    Text.Continues file.lines file'.lines := by
  rcases file with e | bytes
  · exact ⟨List.nil_prefix, Nat.zero_le _⟩
  obtain ⟨more, rfl⟩ := h
  rw [lines_eq_rows, lines_eq_rows]
  show Text.Continues ((rowsOf bytes).map Row.text) ((rowsOf (bytes ++ more)).map Row.text)
  refine .of_getElem? ?_ fun i hi => ?_
  · rw [List.length_map, List.length_map]
    exact length_rowsOf_le bytes more
  · rw [List.length_map] at hi
    have hrow := List.getElem?_eq_getElem (Nat.lt_of_succ_lt hi)
    obtain ⟨row', hrow', hkept⟩ := kept_of_cut (cut_rowsOf bytes) more i _ hrow
    have hended : (rowsOf bytes)[i].ending ≠ [] := fun hopen =>
      Nat.ne_of_lt hi ((cut_rowsOf bytes).last_of_open hrow hopen)
    rw [List.getElem?_map, List.getElem?_map, hrow, hrow', Option.map_some, Option.map_some,
      Row.text, hkept, if_neg hended, Row.text]

theorem lineCount_le_of_grows {file file' : LogFile} (h : file.Grows file') :
    file.lineCount ≤ file'.lineCount :=
  (continues_of_grows h).length_le

/-- Bytes added to a file take no line away from it, and each stays where it was. One that was ended
is read as before. Only the last may not have been, and it is one line still, with the added bytes
up to the next line break after its own. -/
theorem appending_keeps_lines (bytes added : List UInt8) :
    let before : LogFile := .ok bytes
    let after : LogFile := .ok (bytes ++ added)
    before.lineCount ≤ after.lineCount ∧ before.lineCount = before.rows.length
      ∧ ∀ (i : Nat) (row : Row), before.rows[i]? = some row →
          ∃ row', after.rows[i]? = some row'
            ∧ before.read i 1 = [row.text] ∧ after.read i 1 = [row'.text]
            ∧ (row.ending ≠ [] → row'.text = row.text)
            ∧ (row.ending = [] → i + 1 = before.rows.length
                ∧ row'.bytes = row.bytes ++ added.takeWhile (!isBreak ·)) := by
  intro before after
  refine ⟨lineCount_le_of_grows ⟨added, rfl⟩, before.lineCount_eq_rows, fun i row hrow => ?_⟩
  obtain ⟨row', hrow', hkept⟩ := kept_of_cut (cut_rowsOf bytes) added i row hrow
  refine ⟨row', hrow', read_row hrow, read_row hrow', fun hended => ?_, fun hopen => ?_⟩
  · rw [Row.text, Row.text, hkept, if_neg hended]
  · exact ⟨(cut_rowsOf bytes).last_of_open hrow hopen, hkept.trans (if_pos hopen)⟩

/-- The bytes of a line and of another that is cut within a character, and those that go on with
it. -/
def cutWithin : List UInt8 :=
  [0x61, 0x0D, 0x62, 0xE2, 0x82]

def goneOn : List UInt8 :=
  [0xAC, 0x0D, 0x0A, 0x63]

theorem appending_goneOn :
    let before : LogFile := .ok cutWithin
    let after : LogFile := .ok (cutWithin ++ goneOn)
    before.rows = [⟨[0x61], [0x0D]⟩, ⟨[0x62, 0xE2, 0x82], []⟩]
      ∧ before.read 0 1 = ["a"] ∧ after.read 0 1 = ["a"]
      ∧ before.read 1 1 = ["b\uFFFD"] ∧ after.read 1 1 = ["b€"] := by
  intro before after
  have hrows : before.rows = [⟨[0x61], [0x0D]⟩, ⟨[0x62, 0xE2, 0x82], []⟩] := by decide
  obtain ⟨-, -, hkept⟩ := appending_keeps_lines cutWithin goneOn
  obtain ⟨row, -, hbefore, hafter, hended, -⟩ := hkept 0 _ (congrArg (·[0]?) hrows)
  obtain ⟨row', -, hbefore', hafter', -, hopen⟩ := hkept 1 _ (congrArg (·[1]?) hrows)
  refine ⟨hrows, hbefore, ?_, hbefore', ?_⟩
  · rw [hended (by decide)] at hafter
    exact hafter
  · rw [Row.text, (hopen rfl).2] at hafter'
    exact hafter'

end LogFile

end Stepboard
