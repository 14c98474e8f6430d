import Stepboard.Proofs.DumpText
/-!
# Dumps are lossless

The lines of a dump cover its words without gap or overlap (`dumpLines_covers`), whatever runs of
zero words there are and wherever it begins and ends. So its text tells every word of it, in order.
-/

namespace Stepboard.Memory

/-- The address of a word, counted from that of another. -/
def wordAt (address : Int) (i : Nat) : Int :=
  address + wordSize * i

theorem wordAt_zero (address : Int) : wordAt address 0 = address := by
  simp [wordAt]

theorem wordAt_add (address : Int) (n i : Nat) :
    wordAt (address + wordSize * n) i = wordAt address (n + i) := by
  simp only [wordAt, wordSize]
  omega

theorem wordAt_succ (address : Int) (i : Nat) :
    wordAt (address + wordSize) i = wordAt address (i + 1) := by
  simp only [wordAt, wordSize]
  omega

section Covers

variable (word byte : Int → Int)

/-- The words of a stretch of memory with their addresses. -/
def pairsFrom (address : Int) (n : Nat) : List (Int × Int) :=
  (List.range n).map fun i => (wordAt address i, word (wordAt address i) % wordLimit)

theorem pairsFrom_add (address : Int) (n k : Nat) :
    pairsFrom word address (n + k)
      = pairsFrom word address n ++ pairsFrom word (address + wordSize * n) k := by
  simp only [pairsFrom, List.range_add, List.map_append, List.map_map, Function.comp_def,
    wordAt_add]

/-- The line of `count` words from an address on. -/
def dataLine (address : Int) (count : Nat) : Line :=
  .data address ((List.range count).map fun i => word (wordAt address i))
    ((List.range (wordSize * count)).map fun i : Nat => byte (address + i))

/-- Lines that cover `n` words from an address on, each beginning where the one before it ends. -/
inductive Covers : Int → Nat → List Line → Prop
  | nil (address : Int) : Covers address 0 []
  | zeros {address : Int} {run n : Nat} {lines : List Line} (pos : 0 < run)
      (zero : ∀ i, i < run → toWord (word (wordAt address i)) = 0)
      (rest : Covers (address + wordSize * run) n lines) :
      Covers address (run + n) (.zeros address (address + wordSize * (run - 1)) :: lines)
  | data {address : Int} {count n : Nat} {lines : List Line} (pos : 0 < count)
      (le : count ≤ lineWords) (rest : Covers (address + wordSize * count) n lines) :
      Covers address (count + n) (dataLine word byte address count :: lines)

theorem decodeLine_dataLine (base : Base) {address : Int} {count : Nat} (h0 : 0 ≤ address)
    (hlt : address < wordLimit) (pos : 0 < count) (le : count ≤ lineWords) :
    decodeLine base ((dataLine word byte address count).render base)
      = pairsFrom word address count :=
  decodeLine_data base h0 hlt pos le (by simp)

variable {word byte}

theorem decodeLine_run (base : Base) {address : Int} {run : Nat} (h0 : 0 ≤ address)
    (hlt : wordAt address (run - 1) < wordLimit) (pos : 0 < run)
    (zero : ∀ i, i < run → toWord (word (wordAt address i)) = 0) :
    decodeLine base ((Line.zeros address (address + wordSize * (run - 1))).render base)
        = pairsFrom word address run
      ∧ ZeroRun.parse? ((Line.zeros address (address + wordSize * (run - 1))).render base)
        ≠ none := by
  have hlast : address + wordSize * ((run : Int) - 1) < wordLimit := by
    simp only [wordAt, wordSize] at hlt ⊢
    omega
  constructor
  · rw [decodeLine_zeros base h0 pos hlast]
    refine List.map_congr_left fun i hi => ?_
    rw [← toWord_eq_emod, zero i (List.mem_range.1 hi)]
    rfl
  · obtain ⟨r, hr, -⟩ := parse?_run base h0 pos hlast
    rw [hr]
    exact Option.some_ne_none r

theorem toList_dataLine (base : Base) (address : Int) (count : Nat) :
    ((dataLine word byte address count).render base).toList
      = tagChars address
        ++ (List.range count).flatMap
          (fun i => ' ' :: ' ' :: wordChars base (word (wordAt address i)))
        ++ List.replicate ((lineWords - count) * (base.width + 2)) ' ' ++ [' ', ' ']
        ++ (List.range (wordSize * count)).map fun i : Nat => byteChar (byte (address + i)) := by
  simp [dataLine, Line.render, Line.chars, List.flatMap_map, Function.comp_def]

/-- What lines that cover some words tell is those words, and a line that is not collapsed has
between one and four of them and one character for each of their bytes. -/
theorem decode_of_covers (base : Base) {address : Int} {n : Nat} {lines : List Line}
    (h : Covers word byte address n lines) (h0 : 0 ≤ address)
    (hlt : ∀ i, i < n → wordAt address i < wordLimit) :
    decode base (lines.map (Line.render base)) = pairsFrom word address n
      ∧ ∀ line ∈ lines.map (Line.render base), ZeroRun.parse? line = none →
        ∃ first count, 0 < count ∧ count ≤ lineWords
          ∧ decodeLine base line = pairsFrom word first count
          ∧ line = (dataLine word byte first count).render base := by
  induction h with
  | nil => exact ⟨rfl, fun line hline => by simp at hline⟩
  | @zeros address run n lines pos zero rest ih =>
    obtain ⟨hdecode, hlines⟩ := ih (by simp only [wordSize]; omega) fun i hi => by
      rw [wordAt_add]
      exact hlt (run + i) (by omega)
    obtain ⟨hline, hsome⟩ := decodeLine_run base h0 (hlt (run - 1) (by omega)) pos zero
    refine ⟨?_, fun line hmem hnone => ?_⟩
    · rw [pairsFrom_add, ← hdecode, ← hline]
      rfl
    · rcases List.mem_cons.1 hmem with rfl | hmem
      · exact absurd hnone hsome
      · exact hlines line hmem hnone
  | @data address count n lines pos le rest ih =>
    obtain ⟨hdecode, hlines⟩ := ih (by simp only [wordSize]; omega) fun i hi => by
      rw [wordAt_add]
      exact hlt (count + i) (by omega)
    have hfirst := hlt 0 (by omega)
    rw [wordAt_zero] at hfirst
    have hline := decodeLine_dataLine word byte base h0 hfirst pos le
    refine ⟨?_, fun line hmem hnone => ?_⟩
    · rw [pairsFrom_add, ← hdecode, ← hline]
      rfl
    · rcases List.mem_cons.1 hmem with rfl | hmem
      · exact ⟨address, count, pos, le, hline, rfl⟩
      · exact hlines line hmem hnone

end Covers

section Loop

variable {word byte : Int → Int} {m : Type → Type} [Monad m] [LawfulMonad m] {memory : Reader m}

theorem add_step_succ (address step : Int) (i : Nat) :
    address + step + step * i = address + step * (i + 1 : Nat) := by
  rw [Int.natCast_succ, Int.mul_add]
  omega

theorem readEach_eq_mapM (read : Int → m Int) (step : Int) : ∀ (count : Nat) (address : Int),
    readEach read step address count
      = (List.range count).mapM fun i : Nat => read (address + step * i)
  | 0, _ => by simp [readEach]
  | count + 1, address => by
    rw [List.range_succ_eq_map, List.mapM_cons, List.mapM_map]
    simp [readEach, readEach_eq_mapM read step count, add_step_succ, Function.comp_def]

theorem readEach_pure {read : Int → m Int} {value : Int → Int} (h : ∀ a, read a = pure (value a))
    (step : Int) (count : Nat) (address : Int) : readEach read step address count
      = pure ((List.range count).map fun i : Nat => value (address + step * i)) := by
  rw [readEach_eq_mapM]
  simp only [h, List.mapM_pure]

variable (hw : ∀ a, memory.readWord a = pure (word a))

include hw in
theorem zeroRunFrom_pure : ∀ (limit count : Nat) (address : Int),
    ∃ run, zeroRunFrom memory count address limit = pure (count + run) ∧ run ≤ limit
      ∧ ∀ i, i < run → toWord (word (wordAt address i)) = 0
  | 0, count, _ => ⟨0, rfl, Nat.le_refl 0, fun i hi => by omega⟩
  | limit + 1, count, address => by
    simp only [zeroRunFrom, hw, pure_bind]
    split_ifs with hz
    · obtain ⟨run, hrun, hle, hzero⟩ := zeroRunFrom_pure limit (count + 1) (address + wordSize)
      refine ⟨run + 1, ?_, by omega, ?_⟩
      · rw [hrun, Nat.add_assoc, Nat.add_comm 1]
      · intro i hi
        cases i with
        | zero => rwa [wordAt_zero]
        | succ i =>
          rw [← wordAt_succ]
          exact hzero i (by omega)
    · exact ⟨0, rfl, by omega, fun i hi => by omega⟩

variable (hb : ∀ a, memory.readByte a = pure (byte a))

include hw hb

theorem readLine_pure (address : Int) (count : Nat) :
    readLine memory address count = pure (dataLine word byte address count) := by
  simp only [readLine, readEach_pure hw, readEach_pure hb, pure_bind, Int.one_mul]
  rfl

theorem linesFrom_covers (address : Int) (remaining : Nat) :
    ∃ lines, linesFrom memory address remaining = pure lines
      ∧ Covers word byte address remaining lines := by
  -- Both a collapsed run and a line of words leave fewer words, so the induction is on their count.
  induction remaining using Nat.strongRecOn generalizing address with
  | ind remaining ih =>
    unfold linesFrom
    split_ifs with h0
    · exact ⟨[], rfl, h0 ▸ .nil address⟩
    · obtain ⟨run, hrun, hle, hzero⟩ := zeroRunFrom_pure hw remaining 0 address
      rw [Nat.zero_add] at hrun
      simp only [zeroRun, hrun, pure_bind]
      split_ifs with hmin
      · simp only [minZeroRun] at hmin
        obtain ⟨lines, hlines, hcov⟩ := ih (remaining - run) (by omega) (address + wordSize * run)
        refine ⟨_, by rw [hlines, pure_bind], ?_⟩
        have hcov' := Covers.zeros (by omega) hzero hcov
        rwa [Nat.add_sub_cancel' hle] at hcov'
      · have hc := wordsToBoundary_pos address
        have hc' := wordsToBoundary_le address
        obtain ⟨lines, hlines, hcov⟩ := ih (remaining - min remaining (wordsToBoundary address))
          (by omega) (address + wordSize * (min remaining (wordsToBoundary address) : Nat))
        refine ⟨_, by rw [readLine_pure hw hb, pure_bind, hlines, pure_bind], ?_⟩
        have hcov' := Covers.data (by omega) (by omega) hcov
        rwa [Nat.add_sub_cancel' (Nat.min_le_left ..)] at hcov'

theorem dumpLines_covers (start stop : Int) :
    ∃ lines, dumpLines memory start stop = pure lines
      ∧ Covers word byte (roundUp start wordSize) (wordCount (roundUp start wordSize) stop)
        lines := by
  simp only [dumpLines]
  generalize roundUp start wordSize = address
  generalize wordCount address stop = remaining
  split_ifs with h0 halign
  · exact ⟨[], rfl, h0 ▸ .nil address⟩
  · exact linesFrom_covers hw hb address remaining
  · have hc := wordsToBoundary_pos address
    have hc' := wordsToBoundary_le address
    obtain ⟨lines, hlines, hcov⟩ := linesFrom_covers hw hb
      (address + wordSize * (min remaining (wordsToBoundary address) : Nat))
      (remaining - min remaining (wordsToBoundary address))
    refine ⟨_, by rw [readLine_pure hw hb, pure_bind, hlines, pure_bind], ?_⟩
    have hcov' := Covers.data (by omega) (by omega) hcov
    rwa [Nat.add_sub_cancel' (Nat.min_le_left ..)] at hcov'

end Loop

theorem lt_wordCount_iff (address stop : Int) (i : Nat) :
    i < wordCount address stop ↔ wordAt address i < stop := by
  simp only [wordCount, wordAt, wordSize]
  omega

theorem roundUp_nonneg {start : Int} (h0 : 0 ≤ start) : 0 ≤ roundUp start wordSize := by
  simp only [roundUp, wordSize]
  rw [Int.fdiv_eq_ediv_of_nonneg _ (by decide)]
  omega

/-- Whatever words and bytes a memory holds, the text of a dump of it within the address space tells
exactly the words from the first whole one at or after its start to its end, in order, and on every
line that is not collapsed there is one character for each byte of its words, after the words. -/
theorem dump_tells_its_words {m : Type → Type} [Monad m] [LawfulMonad m] {memory : Reader m}
    {word byte : Int → Int} (hw : ∀ a, memory.readWord a = pure (word a))
    (hb : ∀ a, memory.readByte a = pure (byte a)) {start stop : Int} (h0 : 0 ≤ start)
    (hstop : stop ≤ wordLimit) (base : Base) :
    ∃ lines, formatMemory memory start stop base = pure lines
      ∧ (∃ count, (∀ i, i < count ↔ wordAt (roundUp start wordSize) i < stop)
        ∧ decode base lines = pairsFrom word (roundUp start wordSize) count)
      ∧ ∀ line ∈ lines, ZeroRun.parse? line = none →
        ∃ first count, 0 < count ∧ count ≤ lineWords
          ∧ decodeLine base line = pairsFrom word first count
          ∧ line.toList = tagChars first
            ++ (List.range count).flatMap
              (fun i => ' ' :: ' ' :: wordChars base (word (wordAt first i)))
            ++ List.replicate ((lineWords - count) * (base.width + 2)) ' ' ++ [' ', ' ']
            ++ (List.range (wordSize * count)).map fun i : Nat => byteChar (byte (first + i)) := by
  obtain ⟨lines, hlines, hcov⟩ := dumpLines_covers hw hb start stop
  obtain ⟨hdecode, hdata⟩ := decode_of_covers base hcov (roundUp_nonneg h0) fun i hi =>
    Int.lt_of_lt_of_le ((lt_wordCount_iff _ _ i).1 hi) hstop
  refine ⟨lines.map (Line.render base), ?_, ⟨_, lt_wordCount_iff _ _, hdecode⟩, ?_⟩
  · rw [formatMemory, hlines, pure_bind]
  · intro line hmem hnone
    obtain ⟨first, count, pos, le, hline, rfl⟩ := hdata line hmem hnone
    exact ⟨first, count, pos, le, hline, toList_dataLine base first count⟩

/-- A memory of zeros below address 32 and negative words from there on. -/
def rampWord (address : Int) : Int :=
  if address < 32 then 0 else 20 - address

/-- A reader of that memory, its bytes all the same letter. -/
def ramp : Reader Id where
  readWord address := pure (rampWord address)
  readByte _ := pure 65

/-- A partial line of zeros, four collapsed ones and two lines of negative words are all told. -/
theorem decode_ramp :
    decode .decimal (formatMemory ramp 5 61 .decimal) = pairsFrom rampWord 8 14 := by
  have hw : ∀ a, ramp.readWord a = pure (rampWord a) := fun _ => rfl
  have hb : ∀ a, ramp.readByte a = pure ((fun _ => 65 : Int → Int) a) := fun _ => rfl
  obtain ⟨lines, hlines, ⟨count, hcount, hdecode⟩, -⟩ :=
    dump_tells_its_words hw hb (by decide : (0 : Int) ≤ 5) (by decide : (61 : Int) ≤ wordLimit)
      .decimal
  have hfirst : roundUp 5 wordSize = 8 := by decide
  have h13 := hcount 13
  have h14 := hcount 14
  rw [hfirst] at h13 h14
  simp only [wordAt, wordSize] at h13 h14
  have hcount' : count = 14 := by omega
  rw [hlines, ← hcount', ← hfirst]
  exact hdecode

end Stepboard.Memory
