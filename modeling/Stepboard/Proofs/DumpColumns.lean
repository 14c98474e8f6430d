import Stepboard.Proofs.DumpShape
/-!
# The columns of a dump

Words fill their columns exactly, but for decimal words of minus ten digits, which take one
character more (`length_wordChars_eq`). The bytes of a line begin that much farther to the right
than they should (`byte_column_aligned_iff`), however many words are missing.
-/

namespace Stepboard.Memory

/-- A word whose sign does not fit into its column. -/
def Overflows (base : Base) (value : Int) : Prop :=
  base = .decimal ∧ toSigned value ≤ -1000000000

instance (base : Base) (value : Int) : Decidable (Overflows base value) :=
  inferInstanceAs (Decidable (_ ∧ _))

theorem length_negative {n : Nat} (h : n ≤ 0x80000000) :
    (Numeral.padLeft 10 ' ' ('-' :: Numeral.digits 10 n)).length
      = if 1000000000 ≤ n then 11 else 10 := by
  simp only [Numeral.padLeft, List.length_append, List.length_replicate, List.length_cons]
  split_ifs with hn
  · have hle : (Numeral.digits 10 n).length ≤ 9 + 1 :=
      Numeral.length_digits_le (by omega) (Nat.lt_of_le_of_lt h (by decide))
    have hlt : 9 < (Numeral.digits 10 n).length := Numeral.lt_length_digits (by omega) hn
    omega
  · have hle : (Numeral.digits 10 n).length ≤ 8 + 1 :=
      Numeral.length_digits_le (by omega) (Nat.not_le.mp hn)
    omega

theorem length_wordChars_eq (base : Base) (value : Int) :
    (wordChars base value).length = base.width + if Overflows base value then 1 else 0 := by
  cases base with
  | hexadecimal => simp [wordChars, Base.width, Overflows]
  | binary => simp [wordChars, Base.width, Overflows]
  | decimal =>
    simp only [wordChars, Base.width, Overflows, true_and]
    split_ifs with hs ho ho
    · omega
    · rw [Numeral.length_fixed]
    · rw [length_negative (natAbs_toSigned_le value), if_pos (by omega)]
    · rw [length_negative (natAbs_toSigned_le value), if_neg (by omega)]

theorem length_wordChars_eq_width_iff (base : Base) (value : Int) :
    (wordChars base value).length = base.width ↔ ¬ Overflows base value := by
  rw [length_wordChars_eq]
  split_ifs with h <;> simp [h]

theorem length_wordsText_eq (base : Base) (words : List Int) :
    (wordsText base words).length
      = words.length * (base.width + 2) + words.countP (Overflows base ·) := by
  induction words with
  | nil => simp [wordsText]
  | cons w ws ih =>
    have hcons : wordsText base (w :: ws) = ' ' :: ' ' :: wordChars base w ++ wordsText base ws :=
      rfl
    rw [hcons, List.length_append, List.length_cons, List.length_cons, ih, length_wordChars_eq,
      List.countP_cons, List.length_cons, Nat.succ_mul]
    simp only [decide_eq_true_eq]
    omega

/-- What stands on a line before its bytes. -/
def frame (base : Base) (address : Int) (words : List Int) : List Char :=
  tagChars address ++ wordsText base words
    ++ List.replicate ((lineWords - words.length) * (base.width + 2)) ' ' ++ [' ', ' ']

theorem chars_eq_frame (base : Base) (address : Int) (words bytes : List Int) :
    (Line.data address words bytes).chars base = frame base address words ++ bytes.map byteChar :=
  rfl

/-- Missing words leave their columns blank, so that only words that overflow count. -/
theorem length_frame (base : Base) (address : Int) {words : List Int}
    (h : words.length ≤ lineWords) :
    (frame base address words).length
      = frameLength base + words.countP (Overflows base ·) := by
  obtain ⟨missing, hmissing⟩ := Nat.exists_eq_add_of_le h
  simp only [frame, List.length_append, length_tagChars, length_wordsText_eq, List.length_replicate,
    List.length_cons, List.length_nil, frameLength, hmissing, Nat.add_sub_cancel_left, Nat.add_mul]
  omega

theorem countP_overflows_eq_zero_iff (base : Base) (words : List Int) :
    words.countP (Overflows base ·) = 0
      ↔ ∀ w ∈ words, (wordChars base w).length = base.width := by
  simp only [List.countP_eq_zero, decide_eq_true_eq, length_wordChars_eq_width_iff]

section Dump

variable {ε : Type} {memory : Reader (Except ε)} {word byte : Int → Int}

/-- On every line of a dump that is not collapsed, full or partial, the bytes begin after as many
characters as a tag, four columns and the blanks take, and one more for each word that exceeds its
column. They begin where they should just if every word fills its column, which in decimal means
that no word has minus ten digits and in the other bases is always so. -/
theorem byte_column_aligned_iff (holds : memory.Holds word byte) {start stop : Int} {base : Base}
    {texts : List String} (h : formatMemory memory start stop base = .ok texts) :
    (∀ value, (wordChars base value).length = base.width
        ↔ (base = .decimal → -1000000000 < toSigned value))
      ∧ ∃ lines : List Line, texts = lines.map (Line.render base)
        ∧ ∀ address words bytes, .data address words bytes ∈ lines →
          ∃ count before, 0 < count ∧ count ≤ lineWords
            ∧ words = (List.range count).map (fun i => word (wordAt address i))
            ∧ ((Line.data address words bytes).render base).toList
              = before ++ (List.range (wordSize * count)).map
                  (fun i : Nat => byteChar (byte (address + i)))
            ∧ before.length = 10 + 4 * (base.width + 2) + 2 + words.countP (Overflows base ·)
            ∧ (before.length = 10 + 4 * (base.width + 2) + 2
              ↔ ∀ w ∈ words, (wordChars base w).length = base.width) := by
  refine ⟨fun value => ?_, ?_⟩
  · rw [length_wordChars_eq_width_iff, Overflows, not_and, Int.not_le]
  · obtain ⟨lines, hlines, htexts⟩ := bind_eq_ok_iff.mp h
    cases htexts
    refine ⟨lines, rfl, fun address words bytes hline => ?_⟩
    cases fits_of_dumpLines holds hlines _ hline with
    | @data _ count pos le =>
      have hcount : ((List.range count).map fun i => word (wordAt address i)).length
          ≤ lineWords := by simpa using le
      have hframe := length_frame base address hcount
      have hlength : frameLength base = 10 + 4 * (base.width + 2) + 2 := by
        simp only [frameLength, lineWords]
        omega
      rw [hlength] at hframe
      refine ⟨count, frame base address _, pos, le, rfl, ?_, hframe, ?_⟩
      · rw [Line.render, String.toList_ofList, chars_eq_frame, List.map_map]
        rfl
      · rw [hframe, ← countP_overflows_eq_zero_iff]
        omega

end Dump

/-- A memory of ones whose first word is the least there is. -/
def lowFirst : Reader (Except Unit) where
  readWord address := .ok (if address = 0 then 0x80000000 else 1)
  readByte _ := .ok 65

def lowFirstDump : List String :=
  ["[00000000]  -2147483648  0000000001  0000000001  0000000001  AAAAAAAAAAAAAAAA",
   "[00000010]  0000000001  0000000001                          AAAAAAAA"]

/-- The bytes of both lines begin where the words that overflow tell. -/
theorem low_first_columns :
    lowFirst.Holds (fun address => if address = 0 then 0x80000000 else 1) (fun _ => 65)
      ∧ formatMemory lowFirst 0 24 .decimal = .ok lowFirstDump
      ∧ ∃ lines : List Line, lowFirstDump = lines.map (Line.render .decimal)
        ∧ ∀ address words bytes, .data address words bytes ∈ lines →
          ∃ count before, ((Line.data address words bytes).render .decimal).toList
              = before ++ List.replicate (4 * count) 'A'
            ∧ before.length = 60 + words.countP (Overflows .decimal ·) := by
  have holds : lowFirst.Holds (fun address => if address = 0 then 0x80000000 else 1) fun _ => 65 :=
    ⟨Except.ok.inj, Except.ok.inj⟩
  have hdump : formatMemory lowFirst 0 24 .decimal = .ok lowFirstDump := by decide +kernel
  obtain ⟨-, lines, htexts, hlines⟩ := byte_column_aligned_iff holds hdump
  refine ⟨holds, hdump, lines, htexts, fun address words bytes hline => ?_⟩
  obtain ⟨count, before, -, -, -, htext, hlength, -⟩ := hlines address words bytes hline
  refine ⟨count, before, ?_, hlength⟩
  rw [htext, List.map_const', List.length_range]
  rfl

/-- A word of minus ten digits moves the bytes of its line out of the column of the other lines. -/
theorem byte_column_moves_of_low_word :
    (formatMemory lowFirst 0 24 .decimal = .ok lowFirstDump
        ∧ Line.render .decimal (.data 0 [0x80000000, 1, 1, 1] (List.replicate 16 65))
          = lowFirstDump[0])
      ∧ 10 + 4 * (Base.decimal.width + 2) + 2 = 60
      ∧ (wordChars .decimal 0x80000000).length = Base.decimal.width + 1
      ∧ lowFirstDump[0].toList.drop 60 = ' ' :: List.replicate 16 'A'
      ∧ lowFirstDump[1].toList.drop 60 = List.replicate 8 'A' := by
  decide +kernel

end Stepboard.Memory
