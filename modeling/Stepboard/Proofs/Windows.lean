import Stepboard.Proofs.FileRows
/-!
# Windows of a file

Lines of a file are read in one pass over its rows: the rows before the window are passed over, and
the pass ends with the last line asked for. What is read so is the window of the rows
(`gather_eq`), so that windows one after another read the same as one window over all of them.
-/

namespace Stepboard

namespace Text

theorem mem_expandTabsFrom : ∀ (cs : List Char) (col : Nat) {c : Char},
    c ∈ expandTabsFrom col cs → c = ' ' ∨ c ∈ cs ∧ c ≠ '\t'
  | [], _, _, h => by simp [expandTabsFrom] at h
  | d :: cs, col, c, h => by
    rw [expandTabsFrom] at h
    split at h
    · rcases List.mem_append.1 h with h | h
      · exact .inl (List.eq_of_mem_replicate h)
      · exact (mem_expandTabsFrom cs _ h).imp_right (.imp_left (List.mem_cons_of_mem d))
    · rename_i htab
      have hcons : ∀ {col : Nat}, c ∈ d :: expandTabsFrom col cs →
          c = ' ' ∨ c ∈ d :: cs ∧ c ≠ '\t' := by
        intro col h
        rcases List.mem_cons.1 h with rfl | h
        · exact .inr ⟨List.mem_cons_self, htab⟩
        · exact (mem_expandTabsFrom cs _ h).imp_right (.imp_left (List.mem_cons_of_mem d))
      split at h
      · exact hcons h
      · exact hcons h

end Text

namespace LogFile

/-- Goes through rows from an index on: those before `start` are passed over, and the lines of the
others are gathered until there are `height` of them. -/
def gather (start height : Nat) : Nat → List Row → List String → List String
  | _, [], gathered => gathered
  | index, row :: rows, gathered =>
    if index < start then gather start height (index + 1) rows gathered
    else
      let gathered := gathered ++ [row.text]
      if height ≤ gathered.length then gathered
      else gather start height (index + 1) rows gathered

/-- Reads lines of a file in one pass over its rows. -/
def pass (file : LogFile) (start height : Int) : List String :=
  if height ≤ 0 then [] else gather start.toNat height.toNat 0 file.rows []

/-- What a pass has gathered and will gather is a window of the rows still to come. -/
theorem gather_eq (start height : Nat) : ∀ (rows : List Row) (index : Nat) {gathered : List String},
    gathered.length < height → gather start height index rows gathered
      = gathered ++ ((rows.drop (start - index)).take (height - gathered.length)).map Row.text
  | [], _, _, _ => by simp [gather]
  | row :: rows, index, gathered, h => by
    rw [gather]
    split
    · -- The row is passed over, and the window comes a row nearer.
      rename_i hbefore
      rw [gather_eq start height rows (index + 1) h,
        show start - index = start - (index + 1) + 1 by omega, List.drop_succ_cons]
    · -- The window has begun: it starts at this row, which takes one of its places.
      rename_i hwithin
      have htake : height - gathered.length = height - (gathered.length + 1) + 1 := by omega
      rw [Nat.sub_eq_zero_of_le (Nat.le_of_not_lt hwithin), List.drop_zero, htake,
        List.take_succ_cons, List.map_cons]
      simp only [List.length_append, List.length_singleton]
      split
      · rename_i hfull
        rw [Nat.sub_eq_zero_of_le hfull, List.take_zero, List.map_nil]
      · rename_i hroom
        have hpassed : start - (index + 1) = 0 := by omega
        rw [gather_eq start height rows (index + 1) (by simpa using hroom), hpassed,
          List.drop_zero, List.length_append, List.length_singleton, List.append_assoc,
          List.singleton_append]

section Read

variable (file : LogFile)

theorem pass_eq_rows (start height : Int) :
    file.pass start height
      = ((file.rows.drop start.toNat).take height.toNat).map Row.text := by
  unfold pass
  split
  · rename_i h
    rw [Int.toNat_of_nonpos h, List.take_zero, List.map_nil]
  · rename_i h
    rw [gather_eq _ _ _ _ (by simp; omega)]
    simp

theorem read_append {start height height' : Int} (hs : 0 ≤ start) (hh : 0 ≤ height)
    (hh' : 0 ≤ height') : file.read start height ++ file.read (start + height) height'
      = file.read start (height + height') := by
  unfold read
  rw [Int.toNat_add hs hh, Int.toNat_add hh hh', List.take_add, List.drop_drop]

end Read

theorem Cut.plain {bytes : List UInt8} {rows : List Row} (h : Cut bytes rows) :
    ∀ row ∈ rows, ∀ b ∈ row.bytes, isBreak b = false := by
  induction h with
  | none => simp
  | last plain ne => simpa using plain
  | row plain ends whole more ih => exact List.forall_mem_cons.2 ⟨plain, ih⟩

theorem mem_text_row {bytes : List UInt8} {rows : List Row} (h : Cut bytes rows) {row : Row}
    (hrow : row ∈ rows) : ∀ c ∈ row.text.toList, c ≠ '\t' ∧ c ≠ '\n' ∧ c ≠ '\r' := by
  intro c hc
  rw [Row.text, String.toList_ofList] at hc
  rcases Text.mem_expandTabsFrom _ _ hc with rfl | ⟨hc, htab⟩
  · decide
  · have hplain := isNewline_of_mem_decode (h.plain row hrow) c hc
    simp only [Text.isNewline, Bool.or_eq_false_iff, beq_eq_false_iff_ne] at hplain
    exact ⟨htab, hplain⟩

/-- The rows that a file is cut into; one that cannot be read has none. -/
def CutInto : LogFile → List Row → Prop
  | .ok bytes, rows => Cut bytes rows
  | .error _, rows => rows = []

theorem cutInto_iff (file : LogFile) (rows : List Row) : file.CutInto rows ↔ rows = file.rows := by
  cases file with
  | ok bytes => exact cut_iff bytes rows
  | error e => exact Iff.rfl

theorem mem_text_rows (file : LogFile) {row : Row} (h : row ∈ file.rows) :
    ∀ c ∈ row.text.toList, c ≠ '\t' ∧ c ≠ '\n' ∧ c ≠ '\r' := by
  cases file with
  | ok bytes => exact mem_text_row (cut_rowsOf bytes) h
  | error e => cases h

/-- A file is cut into rows in one way, and its lines are counted by them. What is read of it, in
one pass, is a window of its rows, each shown on its own and as one line without tabs; windows one
after another read as one. Reading fails for no file, but where the path can have none. -/
theorem windows_of_rows (file : LogFile) :
    (∀ rows, file.CutInto rows ↔ rows = file.rows)
      ∧ file.lineCount = file.rows.length
      ∧ (∀ start height : Int,
          file.read start height
              = ((file.rows.drop start.toNat).take height.toNat).map Row.text
            ∧ file.read start height = file.pass start height)
      ∧ (∀ start height height' : Int, 0 ≤ start → 0 ≤ height → 0 ≤ height' →
          file.read start height ++ file.read (start + height) height'
            = file.read start (height + height'))
      ∧ (∀ start height : Int, ∀ line ∈ file.read start height, ∀ c ∈ line.toList,
          c ≠ '\t' ∧ c ≠ '\n' ∧ c ≠ '\r')
      ∧ ∀ path height, (file.failure? path = none ∧ file.readFailure? path height = none)
          ∨ file = .error .impossible := by
  refine ⟨file.cutInto_iff, file.lineCount_eq_rows, fun start height => ?_,
    fun start height height' => file.read_append, fun start height line hline => ?_,
    fun path height => ?_⟩
  · exact ⟨file.read_eq_rows start height,
      (file.read_eq_rows start height).trans (file.pass_eq_rows start height).symm⟩
  · rw [read_eq_rows] at hline
    obtain ⟨row, hrow, rfl⟩ := List.mem_map.1 hline
    exact file.mem_text_rows (List.mem_of_mem_drop (List.mem_of_mem_take hrow))
  · rcases file with e | bytes
    · cases e with
      | impossible => exact .inr rfl
      | _ => exact .inl ⟨rfl, by simp [readFailure?, failure?]⟩
    · exact .inl ⟨rfl, by simp [readFailure?, failure?]⟩

/-- A line ended by both line breaks, one of a broken character alone, and one that nothing ends. -/
def ragged : LogFile :=
  .ok [0x61, 0x09, 0x62, 0x0D, 0x0A, 0xE2, 0x82, 0x0D, 0x63, 0x09, 0x64]

theorem windows_ragged :
    ragged.lineCount = 3 ∧ ragged.read (-2) 1 = ["a       b"]
      ∧ ragged.read 1 1 ++ ragged.read (1 + 1) 5 = ragged.read 1 (1 + 5)
      ∧ ragged.read 1 (1 + 5) = ["\uFFFD", "c       d"] := by
  obtain ⟨-, hcount, hread, htile, -⟩ := windows_of_rows ragged
  refine ⟨hcount.trans (by decide), (hread (-2) 1).1.trans ?_,
    htile 1 1 5 (by decide) (by decide) (by decide), (hread 1 (1 + 5)).1.trans ?_⟩
  · decide +kernel
  · decide +kernel

end LogFile

end Stepboard
