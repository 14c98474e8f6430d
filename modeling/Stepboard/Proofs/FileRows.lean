import Stepboard.Log.Stream
import Stepboard.Proofs.Characters
/-!
# The rows of a file

The lines of a file can be told from its bytes: a line feed, a carriage return, or the two together
end a row, whatever the bytes before them are, since the decoder starts afresh at every byte of
ASCII (`decode_append_ascii`) and no other bytes make a line break (`ascii_mem_of_mem_decode`). So
the lines of a file are its rows, each decoded and its tabs expanded on its own (`lines_eq_rows`).
-/

namespace Stepboard

namespace Utf8

/-- A piece shows a byte if it shows the character of the byte, or one that no byte is alone. -/
def Piece.Shows (piece : Piece) (b : UInt8) : Prop :=
  (b.toNat < 0x80 ∧ piece.shown = Char.ofNat b.toNat) ∨ 0x80 ≤ piece.shown.toNat

theorem shows_of_start {b : UInt8} {piece : Piece} (h : start b = .inl piece) : piece.Shows b := by
  rcases Nat.lt_or_ge b.toNat 0x80 with hb | hb
  · cases (start_one hb).symm.trans h
    exact .inl ⟨hb, rfl⟩
  · exact .inr (shown_of_start hb h)

/-- A byte makes some pieces that show it, and leaves a character begun or none, whatever comes
after it. -/
theorem piecesFrom_cons (p : Option Partial) (b : UInt8) (hp : ∀ x ∈ p, x.AboveAscii) :
    ∃ made, ∃ q : Option Partial, (∀ x ∈ q, x.AboveAscii) ∧ (∀ piece ∈ made, piece.Shows b)
      ∧ ∀ bytes, piecesFrom p (b :: bytes) = made ++ piecesFrom q bytes := by
  cases p with
  | none =>
    rcases h : start b with piece | q
    · exact ⟨[piece], none, by simp, by simpa using shows_of_start h,
        fun bytes => by simp [piecesFrom, h]⟩
    · exact ⟨[], some q, by simpa using aboveAscii_of_start h, by simp,
        fun bytes => by simp [piecesFrom, h]⟩
  | some p =>
    have hbroken : (Piece.broken p.bytes .badContinuation).Shows b := .inr replacement_above_ascii
    by_cases ha : p.accepts b = true
    · rcases h : p.push b with piece | q
      · exact ⟨[piece], none, by simp, by simpa using .inr (shown_of_push (hp p rfl) ha h),
          fun bytes => by simp [piecesFrom, ha, h]⟩
      · exact ⟨[], some q, by simpa using aboveAscii_of_push (hp p rfl) ha h, by simp,
          fun bytes => by simp [piecesFrom, ha, h]⟩
    · rcases h : start b with piece | q
      · exact ⟨[.broken p.bytes .badContinuation, piece], none, by simp,
          by simpa using ⟨hbroken, shows_of_start h⟩, fun bytes => by simp [piecesFrom, ha, h]⟩
      · exact ⟨[.broken p.bytes .badContinuation], some q, by simpa using aboveAscii_of_start h,
          by simpa using hbroken, fun bytes => by simp [piecesFrom, ha, h]⟩

theorem piecesFrom_append : ∀ (bytes : List UInt8) (p : Option Partial), (∀ x ∈ p, x.AboveAscii) →
    ∃ made, ∃ q : Option Partial, (∀ x ∈ q, x.AboveAscii)
      ∧ (∀ piece ∈ made, ∃ b ∈ bytes, piece.Shows b)
      ∧ ∀ more, piecesFrom p (bytes ++ more) = made ++ piecesFrom q more
  | [], p, hp => ⟨[], p, hp, by simp, fun _ => rfl⟩
  | b :: bytes, p, hp => by
    obtain ⟨made, q, hq, hmade, hb⟩ := piecesFrom_cons p b hp
    obtain ⟨made', q', hq', hmade', hbytes⟩ := piecesFrom_append bytes q hq
    refine ⟨made ++ made', q', hq', fun piece h => ?_, fun more => ?_⟩
    · rcases List.mem_append.1 h with h | h
      · exact ⟨b, List.mem_cons_self, hmade piece h⟩
      · obtain ⟨b', hb', hshows⟩ := hmade' piece h
        exact ⟨b', List.mem_cons_of_mem _ hb', hshows⟩
    · rw [List.cons_append, hb, hbytes, List.append_assoc]

theorem piecesFrom_ascii {q : Option Partial} (hq : ∀ x ∈ q, x.AboveAscii) {b : UInt8}
    (hb : b.toNat < 0x80) (bytes : List UInt8) :
    (piecesFrom q (b :: bytes)).map Piece.shown
      = (piecesFrom q []).map Piece.shown ++ Char.ofNat b.toNat :: decode bytes := by
  cases q with
  | none =>
    rw [piecesFrom_done (start_one hb)]
    rfl
  | some p =>
    -- A byte of ASCII cannot go on with a character, which is broken off as at the end.
    have hrefused : p.accepts b = false := by
      have hlow := (hq p rfl).low
      simp only [Partial.accepts, Bool.and_eq_false_iff, decide_eq_false_iff_not]
      omega
    simp only [piecesFrom, hrefused, start_one hb]
    rfl

/-- What was decoded of some bytes, whatever comes after them: characters, of which those of ASCII
are among the bytes, and a character begun or none. -/
theorem decode_append (bytes : List UInt8) :
    ∃ cs, ∃ q : Option Partial, (∀ x ∈ q, x.AboveAscii)
      ∧ (∀ c ∈ cs, c.toNat < 0x80 → UInt8.ofNat c.toNat ∈ bytes)
      ∧ ∀ more, decode (bytes ++ more) = cs ++ (piecesFrom q more).map Piece.shown := by
  obtain ⟨made, q, hq, hmade, h⟩ := piecesFrom_append bytes none (by simp)
  refine ⟨made.map Piece.shown, q, hq, fun c hc hascii => ?_, fun more => ?_⟩
  · obtain ⟨piece, hpiece, rfl⟩ := List.mem_map.1 hc
    obtain ⟨b, hb, ⟨hlow, hshown⟩ | habove⟩ := hmade piece hpiece
    · rw [hshown, toNat_charOfNat (.inl (by omega)), UInt8.ofNat_toNat]
      exact hb
    · omega
  · rw [decode, pieces, h, List.map_append]

/-- Whatever bytes come before it, the decoder starts afresh at a byte of ASCII. -/
theorem decode_append_ascii (bytes : List UInt8) {b : UInt8} (hb : b.toNat < 0x80)
    (more : List UInt8) :
    decode (bytes ++ b :: more) = decode bytes ++ decode (b :: more) := by
  obtain ⟨cs, q, hq, -, h⟩ := decode_append bytes
  have hdone := h []
  rw [List.append_nil] at hdone
  rw [h, hdone, piecesFrom_ascii hq hb, decode_ascii hb, List.append_assoc]

/-- A character of ASCII is decoded from its own byte only. -/
theorem ascii_mem_of_mem_decode {bytes : List UInt8} {c : Char} (hc : c ∈ decode bytes)
    (hascii : c.toNat < 0x80) : UInt8.ofNat c.toNat ∈ bytes := by
  obtain ⟨cs, q, hq, hcs, h⟩ := decode_append bytes
  have hdone := h []
  rw [List.append_nil] at hdone
  rw [hdone, List.mem_append] at hc
  rcases hc with hc | hc
  · exact hcs c hc hascii
  · cases q with
    | none => cases hc
    | some p =>
      have hreplaced : c = replacement := by simpa [piecesFrom, Piece.shown] using hc
      rw [hreplaced] at hascii
      exact absurd hascii (by decide)

/-- The first character that is decoded is that of the first byte, or both are above ASCII. -/
theorem decode_cons (b : UInt8) (bytes : List UInt8) : ∃ c cs, decode (b :: bytes) = c :: cs
    ∧ (c.toNat = b.toNat ∧ b.toNat < 0x80 ∨ 0x80 ≤ b.toNat ∧ 0x80 ≤ c.toNat) := by
  by_cases hb : b.toNat < 0x80
  · exact ⟨_, _, decode_ascii hb bytes, .inl ⟨toNat_charOfNat (.inl (by omega)), hb⟩⟩
  · obtain ⟨c, cs, hdecode, hc⟩ := decode_above_ascii (Nat.le_of_not_lt hb) bytes
    exact ⟨c, cs, hdecode, .inr ⟨Nat.le_of_not_lt hb, hc⟩⟩

theorem decode_ne_nil {bytes : List UInt8} (h : bytes ≠ []) : decode bytes ≠ [] := by
  obtain ⟨b, bytes, rfl⟩ := List.exists_cons_of_ne_nil h
  obtain ⟨c, cs, hdecode, -⟩ := decode_cons b bytes
  rw [hdecode]
  exact List.cons_ne_nil c cs

end Utf8

namespace Text

theorem isNewline_iff (c : Char) : isNewline c = true ↔ c = '\n' ∨ c = '\r' := by
  simp [isNewline]

/-- Puts a character before the first of some lines. -/
def beforeFirst (c : Char) : List (List Char) → List (List Char)
  | [] => [[c]]
  | line :: lines => (c :: line) :: lines

theorem foldr_beforeFirst_cons (part line : List Char) (lines : List (List Char)) :
    part.foldr beforeFirst (line :: lines) = (part ++ line) :: lines := by
  induction part with
  | nil => rfl
  | cons c part ih => rw [List.foldr_cons, ih, beforeFirst, List.cons_append]

theorem foldr_beforeFirst_nil {part : List Char} (ne : part ≠ []) :
    part.foldr beforeFirst [] = [part] := by
  rw [← List.dropLast_concat_getLast ne, List.foldr_append, List.foldr_cons, List.foldr_nil,
    beforeFirst, foldr_beforeFirst_cons]

section Cut

variable {isBreak : Char → Bool}

theorem splitLines_newline {c : Char} (h : isBreak c = true) {cs : List Char}
    (hcs : c = '\r' → ∀ rest, cs ≠ '\n' :: rest) :
    splitLines isBreak (c :: cs) = [] :: splitLines isBreak cs := by
  rw [splitLines]
  · rw [if_pos h]
  · rintro rest hc rfl
    exact hcs hc rest rfl

variable (hreturn : isBreak '\r' = true)
include hreturn

theorem splitLines_cons {c : Char} (h : isBreak c = false) (cs : List Char) :
    splitLines isBreak (c :: cs) = beforeFirst c (splitLines isBreak cs) := by
  rw [splitLines]
  · rw [if_neg (by simp [h])]
    cases splitLines isBreak cs <;> rfl
  · rintro cs' rfl
    exact absurd (h.symm.trans hreturn) (by decide)

theorem splitLines_append {part : List Char} (plain : ∀ c ∈ part, isBreak c = false)
    (cs : List Char) :
    splitLines isBreak (part ++ cs) = part.foldr beforeFirst (splitLines isBreak cs) := by
  induction part with
  | nil => rfl
  | cons c part ih =>
    obtain ⟨hc, hpart⟩ := List.forall_mem_cons.1 plain
    rw [List.cons_append, splitLines_cons hreturn hc, ih hpart, List.foldr_cons]

theorem splitLines_plain {line : List Char} (plain : ∀ c ∈ line, isBreak c = false)
    (ne : line ≠ []) : splitLines isBreak line = [line] := by
  have h := splitLines_append hreturn plain []
  rwa [List.append_nil, splitLines, foldr_beforeFirst_nil ne] at h

end Cut

end Text

namespace LogFile

/-- A row of a file: the bytes of a line, and those that end it. -/
structure Row where
  bytes : List UInt8
  ending : List UInt8 := []
  deriving DecidableEq

/-- The line that a row shows: decoded, and its tabs expanded, from its own bytes alone. -/
def Row.text (row : Row) : String :=
  String.ofList (Text.expandTabs (Utf8.decode row.bytes))

/-- The bytes of line feed and carriage return. -/
def isBreak (b : UInt8) : Bool :=
  b == 0x0A || b == 0x0D

/-- What can end a row: a line feed, a carriage return, or the two together. -/
def endings : List (List UInt8) :=
  [[0x0A], [0x0D], [0x0D, 0x0A]]

/-- The rows that some bytes are cut into. Each has an end, a carriage return only where no line
feed follows it; but the last may have none if it has bytes. -/
inductive Cut : List UInt8 → List Row → Prop where
  | none : Cut [] []
  | last {bytes : List UInt8} (plain : ∀ b ∈ bytes, isBreak b = false) (ne : bytes ≠ []) :
      Cut bytes [{ bytes }]
  | row {bytes ending rest : List UInt8} {rows : List Row}
      (plain : ∀ b ∈ bytes, isBreak b = false) (ends : ending ∈ endings)
      (whole : ending = [0x0D] → rest.head? ≠ some 0x0A) (more : Cut rest rows) :
      Cut (bytes ++ ending ++ rest) (⟨bytes, ending⟩ :: rows)

/-- Puts a byte before the first of some rows. -/
def Row.before (b : UInt8) : List Row → List Row
  | [] => [{ bytes := [b] }]
  | row :: rows => { row with bytes := b :: row.bytes } :: rows

/-- The rows of some bytes. -/
def rowsOf : List UInt8 → List Row
  | [] => []
  | 0x0D :: 0x0A :: bytes => ⟨[], [0x0D, 0x0A]⟩ :: rowsOf bytes
  | b :: bytes =>
    if isBreak b then ⟨[], [b]⟩ :: rowsOf bytes else Row.before b (rowsOf bytes)

/-- The rows of a file. One that cannot be read has none. -/
def rows : LogFile → List Row
  | .ok bytes => rowsOf bytes
  | .error _ => []

theorem Cut.before {bytes : List UInt8} {rows : List Row} (h : Cut bytes rows) {b : UInt8}
    (hb : isBreak b = false) : Cut (b :: bytes) (Row.before b rows) := by
  cases h with
  | none => exact .last (by simpa using hb) (by simp)
  | last plain ne => exact .last (List.forall_mem_cons.2 ⟨hb, plain⟩) (by simp)
  | row plain ends whole more => exact .row (List.forall_mem_cons.2 ⟨hb, plain⟩) ends whole more

theorem isBreak_iff (b : UInt8) : isBreak b = true ↔ b = 0x0A ∨ b = 0x0D := by
  simp [isBreak]

theorem cut_rowsOf (bytes : List UInt8) : Cut bytes (rowsOf bytes) := by
  fun_induction rowsOf bytes with
  | case1 => exact .none
  | case2 bytes ih => exact @Cut.row [] [0x0D, 0x0A] bytes _ (by simp) (by decide) (by simp) ih
  | case3 b bytes h hb ih =>
    refine @Cut.row [] [b] bytes _ (by simp) ?_ ?_ ih
    · rcases (isBreak_iff b).1 hb with rfl | rfl <;> decide
    · rintro hreturn hfeed
      obtain ⟨rest, rfl⟩ := List.head?_eq_some_iff.1 hfeed
      exact h rest (List.singleton_inj.1 hreturn) rfl
  | case4 b bytes h hb ih => exact ih.before (by simpa using hb)

theorem rowsOf_cons {b : UInt8} (h : isBreak b = false) (bytes : List UInt8) :
    rowsOf (b :: bytes) = Row.before b (rowsOf bytes) := by
  rw [rowsOf]
  · rw [if_neg (by simp [h])]
  · rintro rest rfl
    cases h

theorem rowsOf_plain {bytes : List UInt8} (plain : ∀ b ∈ bytes, isBreak b = false)
    (ne : bytes ≠ []) : rowsOf bytes = [{ bytes }] := by
  induction bytes with
  | nil => exact absurd rfl ne
  | cons b bytes ih =>
    rw [rowsOf_cons (plain b List.mem_cons_self)]
    cases bytes with
    | nil => rfl
    | cons b' bytes =>
      rw [ih (fun b hb => plain b (List.mem_cons_of_mem _ hb)) (List.cons_ne_nil b' bytes)]
      rfl

theorem rowsOf_ending {ending rest : List UInt8} (ends : ending ∈ endings)
    (whole : ending = [0x0D] → rest.head? ≠ some 0x0A) :
    rowsOf (ending ++ rest) = ⟨[], ending⟩ :: rowsOf rest := by
  simp only [endings, List.mem_cons, List.not_mem_nil, or_false] at ends
  rcases ends with rfl | rfl | rfl
  · rfl
  · rw [List.singleton_append, rowsOf]
    · rfl
    · rintro rest' - rfl
      exact whole rfl rfl
  · rfl

theorem rowsOf_append {bytes ending rest : List UInt8} (plain : ∀ b ∈ bytes, isBreak b = false)
    (ends : ending ∈ endings) (whole : ending = [0x0D] → rest.head? ≠ some 0x0A) :
    rowsOf (bytes ++ ending ++ rest) = ⟨bytes, ending⟩ :: rowsOf rest := by
  induction bytes with
  | nil => exact rowsOf_ending ends whole
  | cons b bytes ih =>
    rw [List.cons_append, List.cons_append, rowsOf_cons (plain b List.mem_cons_self),
      ih fun b hb => plain b (List.mem_cons_of_mem _ hb)]
    rfl

/-- Bytes are cut into rows in one way. -/
theorem cut_iff (bytes : List UInt8) (rows : List Row) : Cut bytes rows ↔ rows = rowsOf bytes := by
  constructor
  · intro h
    induction h with
    | none => rfl
    | last plain ne => rw [rowsOf_plain plain ne]
    | row plain ends whole more ih => rw [rowsOf_append plain ends whole, ih]
  · rintro rfl
    exact cut_rowsOf bytes

theorem ending_eq_cons {ending : List UInt8} (ends : ending ∈ endings) :
    ∃ b tail, b.toNat < 0x80 ∧ ending = b :: tail := by
  simp only [endings, List.mem_cons, List.not_mem_nil, or_false] at ends
  rcases ends with rfl | rfl | rfl <;> exact ⟨_, _, by decide, rfl⟩

section Lines

theorem isNewline_of_mem_decode {bytes : List UInt8} (plain : ∀ b ∈ bytes, isBreak b = false) :
    ∀ c ∈ Utf8.decode bytes, Text.isNewline c = false := by
  intro c hc
  rw [Bool.eq_false_iff]
  intro hnewline
  rcases (Text.isNewline_iff c).1 hnewline with rfl | rfl
  · exact absurd (plain _ (Utf8.ascii_mem_of_mem_decode hc (by decide))) (by decide)
  · exact absurd (plain _ (Utf8.ascii_mem_of_mem_decode hc (by decide))) (by decide)

theorem head_of_decode {bytes : List UInt8} {rest : List Char}
    (h : Utf8.decode bytes = '\n' :: rest) : bytes.head? = some 0x0A := by
  cases bytes with
  | nil => cases h
  | cons b bytes =>
    obtain ⟨c, cs, hdecode, hc⟩ := Utf8.decode_cons b bytes
    cases hdecode.symm.trans h
    have hb : b.toNat = 10 := by
      rcases hc with ⟨hb, -⟩ | ⟨-, habove⟩
      · exact hb.symm
      · exact absurd habove (by decide)
    exact congrArg some (UInt8.toNat_inj.1 hb)

theorem splitLines_decode_ending {ending rest : List UInt8} (ends : ending ∈ endings)
    (whole : ending = [0x0D] → rest.head? ≠ some 0x0A) :
    Text.splitLines Text.isNewline (Utf8.decode (ending ++ rest))
      = [] :: Text.splitLines Text.isNewline (Utf8.decode rest) := by
  simp only [endings, List.mem_cons, List.not_mem_nil, or_false] at ends
  rcases ends with rfl | rfl | rfl
  · rw [List.singleton_append, Utf8.decode_ascii (by decide)]
    exact Text.splitLines_newline rfl fun h => absurd h (by decide)
  · rw [List.singleton_append, Utf8.decode_ascii (by decide)]
    exact Text.splitLines_newline rfl fun _ cs h => whole rfl (head_of_decode h)
  · rw [List.cons_append, List.singleton_append, Utf8.decode_ascii (by decide),
      Utf8.decode_ascii (by decide)]
    rfl

/-- The lines of some bytes are their rows, each decoded on its own. -/
theorem splitLines_decode {bytes : List UInt8} {rows : List Row} (h : Cut bytes rows) :
    Text.splitLines Text.isNewline (Utf8.decode bytes) = rows.map (Utf8.decode ·.bytes) := by
  induction h with
  | none => rfl
  | last plain ne =>
    exact Text.splitLines_plain rfl (isNewline_of_mem_decode plain) (Utf8.decode_ne_nil ne)
  | @row bytes ending rest rows plain ends whole more ih =>
    -- The decoder starts afresh at the line break, so the bytes before it are decoded alone.
    obtain ⟨b, tail, hb, rfl⟩ := ending_eq_cons ends
    rw [List.append_assoc, List.cons_append, Utf8.decode_append_ascii bytes hb,
      Text.splitLines_append rfl (isNewline_of_mem_decode plain), ← List.cons_append,
      splitLines_decode_ending ends whole, ih, Text.foldr_beforeFirst_cons, List.append_nil]
    rfl

theorem lines_eq_rows (file : LogFile) : file.lines = file.rows.map Row.text := by
  cases file with
  | error e => rfl
  | ok bytes =>
    rw [lines, Text.fileLines, splitLines_decode (cut_rowsOf bytes), List.map_map]
    rfl

theorem lineCount_eq_rows (file : LogFile) : file.lineCount = file.rows.length := by
  rw [lineCount, lines_eq_rows, List.length_map]

theorem read_eq_rows (file : LogFile) (start height : Int) :
    file.read start height
      = ((file.rows.drop start.toNat).take height.toNat).map Row.text := by
  rw [read, lines_eq_rows, ← List.map_drop, ← List.map_take]

theorem read_row {file : LogFile} {i : Nat} {row : Row} (h : file.rows[i]? = some row) :
    file.read i 1 = [row.text] := by
  rw [read_eq_rows, Int.toNat_natCast, Int.toNat_one, List.take_one, List.head?_drop, h]
  rfl

end Lines

end LogFile

end Stepboard
