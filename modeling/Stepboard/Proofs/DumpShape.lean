import Mathlib.Data.List.Chain
import Stepboard.Proofs.Lossless
import Stepboard.Proofs.Related
/-!
# The shape of a dump

Runs of zero words are collapsed greedily from wherever a line begins, which need not be a line
boundary after a run of odd length. `Dumped` says what one turn of the loop does: it takes a whole
run, or the words up to the next boundary where no run of four begins. From that follow the shapes
of both kinds of lines (`Dumped.fits`), that no run is left on a line of words but the leading
partial one (`Dumped.not_startsRun`), and that runs never meet (`Dumped.isChain`).
-/

namespace Stepboard.Memory

/-- The words and bytes of a memory, as far as it can be read. -/
structure Reader.Holds {ε : Type} (memory : Reader (Except ε)) (word byte : Int → Int) : Prop where
  word {address value : Int} : memory.readWord address = .ok value → word address = value
  byte {address value : Int} : memory.readByte address = .ok value → byte address = value

/-- The words on a line that is not collapsed when `n` are left. -/
def lineCount (address : Int) (n : Nat) : Nat :=
  min n (wordsToBoundary address)

theorem lineCount_pos (address : Int) {n : Nat} (h : 0 < n) : 0 < lineCount address n :=
  Nat.lt_min.mpr ⟨h, wordsToBoundary_pos address⟩

theorem lineCount_le_left (address : Int) (n : Nat) : lineCount address n ≤ n :=
  Nat.min_le_left ..

theorem lineCount_le (address : Int) (n : Nat) : lineCount address n ≤ lineWords :=
  (Nat.min_le_right ..).trans (wordsToBoundary_le address)

section Dumped

variable (word byte : Int → Int)

/-- A run of zero words that is long enough to be collapsed begins at an address, before `stop`. -/
def StartsRun (stop address : Int) : Prop :=
  ∀ i, i < minZeroRun → wordAt address i < stop ∧ toWord (word (wordAt address i)) = 0

instance (stop address : Int) : Decidable (StartsRun word stop address) :=
  inferInstanceAs (Decidable (∀ i, i < minZeroRun → _))

/-- The lines that the loop makes of `n` words from an address on. -/
inductive Dumped (stop : Int) : Int → Nat → List Line → Prop
  | nil (address : Int) : Dumped stop address 0 []
  | zeros {address : Int} {run n : Nat} {lines : List Line} (long : minZeroRun ≤ run)
      (zero : ∀ i, i < run → toWord (word (wordAt address i)) = 0)
      (ends : 0 < n → toWord (word (wordAt address run)) ≠ 0)
      (rest : Dumped stop (address + wordSize * run) n lines) :
      Dumped stop address (run + n) (.zeros address (address + wordSize * (run - 1)) :: lines)
  | data {address : Int} {n : Nat} {lines : List Line} (pos : 0 < n)
      (noRun : ¬ StartsRun word stop address)
      (rest : Dumped stop (address + wordSize * lineCount address n) (n - lineCount address n)
        lines) :
      Dumped stop address n (dataLine word byte address (lineCount address n) :: lines)

/-- The shape of a line of a dump that ends at `stop`. -/
inductive Line.Fits (stop : Int) : Line → Prop
  /-- At least four zero words, as many as there are. -/
  | zeros {first : Int} {run : Nat} (long : minZeroRun ≤ run)
      (zero : ∀ i, i < run → toWord (word (wordAt first i)) = 0)
      (ends : wordAt first run < stop → toWord (word (wordAt first run)) ≠ 0) :
      Fits stop (.zeros first (first + wordSize * (run - 1)))
  /-- One to four words within sixteen bytes, up to the end of these or of the dump. -/
  | data {address : Int} {count : Nat} (pos : 0 < count) (le : count ≤ lineWords)
      (within : ∀ i, i < count → wordAt address i / lineSize = address / lineSize)
      (ends : wordAt address count % lineSize = 0 ∨ stop ≤ wordAt address count) :
      Fits stop (dataLine word byte address count)

def Line.Collapsed : Line → Prop
  | .zeros .. => True
  | .data .. => False

variable {word byte} {stop address : Int} {n : Nat} {lines : List Line}

theorem fits_dataLine (haddress : address % wordSize = 0) (pos : 0 < n)
    (hn : ∀ i, i < n ↔ wordAt address i < stop) :
    (dataLine word byte address (lineCount address n)).Fits word byte stop := by
  have hstop := hn (lineCount address n)
  refine .data (lineCount_pos address pos) (lineCount_le address n) (fun i hi => ?_) ?_
  · simp only [lineCount, wordsToBoundary, wordAt, lineWords, lineSize, wordSize] at haddress hi ⊢
    omega
  · simp only [lineCount, wordsToBoundary, wordAt, lineWords, lineSize, wordSize]
      at haddress hstop ⊢
    omega

namespace Dumped

theorem covers (h : Dumped word byte stop address n lines) : Covers word byte address n lines := by
  induction h with
  | nil address => exact .nil address
  | zeros long zero _ _ ih => exact .zeros (Nat.lt_of_lt_of_le (by decide) long) zero ih
  | @data address n lines pos _ _ ih =>
    have hcovers := Covers.data (lineCount_pos address pos) (lineCount_le address n) ih
    rwa [Nat.add_sub_cancel' (lineCount_le_left ..)] at hcovers

/-- What is left of the words before the end of a dump when some were taken. -/
theorem left_iff {taken : Nat} (hn : ∀ i, i < n ↔ wordAt address i < stop) (i : Nat) :
    i < n - taken ↔ wordAt (address + wordSize * taken) i < stop := by
  rw [wordAt_add, ← hn]
  omega

theorem aligned_add (h : address % wordSize = 0) (taken : Nat) :
    (address + wordSize * taken) % wordSize = 0 := by
  simp only [wordSize] at h ⊢
  omega

theorem fits (h : Dumped word byte stop address n lines) (haddress : address % wordSize = 0)
    (hn : ∀ i, i < n ↔ wordAt address i < stop) :
    ∀ line ∈ lines, line.Fits word byte stop := by
  induction h with
  | nil => exact fun line hline => absurd hline List.not_mem_nil
  | @zeros address run n lines long zero ends _ ih =>
    have hrest := ih (aligned_add haddress run) fun i => by
      rw [← left_iff hn, Nat.add_sub_cancel_left]
    rintro line (_ | ⟨_, hline⟩)
    · refine .zeros long zero fun hlt => ends ?_
      rw [← hn] at hlt
      omega
    · exact hrest line hline
  | @data address n lines pos _ _ ih =>
    have hrest := ih (aligned_add haddress _) (left_iff hn)
    rintro line (_ | ⟨_, hline⟩)
    · exact fits_dataLine haddress pos hn
    · exact hrest line hline

theorem not_startsRun (h : Dumped word byte stop address n lines) :
    ∀ first words bytes, .data first words bytes ∈ lines → ¬ StartsRun word stop first := by
  induction h with
  | nil => exact fun _ _ _ hline => absurd hline List.not_mem_nil
  | zeros _ _ _ _ ih =>
    rintro first words bytes (_ | ⟨_, hline⟩)
    exact ih first words bytes hline
  | data _ noRun _ ih =>
    rintro first words bytes (_ | ⟨_, hline⟩)
    · exact noRun
    · exact ih first words bytes hline

theorem not_collapsed_head (h : Dumped word byte stop address n lines)
    (hword : 0 < n → toWord (word address) ≠ 0) : ∀ line ∈ lines.head?, ¬ line.Collapsed := by
  cases h with
  | nil => exact fun line hline => nomatch hline
  | @zeros _ run n lines long zero _ _ =>
    have hrun : 0 < run := Nat.lt_of_lt_of_le (by decide) long
    have hzero := zero 0 hrun
    rw [wordAt_zero] at hzero
    exact absurd hzero (hword (by omega))
  | data =>
    rintro line ⟨⟩
    exact id

/-- No two runs meet: what ends a run is not zero, and a run begins with what is. -/
theorem isChain (h : Dumped word byte stop address n lines) :
    lines.IsChain fun a b => ¬ (a.Collapsed ∧ b.Collapsed) := by
  induction h with
  | nil => exact .nil
  | @zeros address run n lines _ _ ends rest ih =>
    refine List.isChain_cons.mpr ⟨fun line hline hboth => ?_, ih⟩
    exact rest.not_collapsed_head ends line hline hboth.2
  | data _ _ _ ih =>
    exact List.isChain_cons.mpr ⟨fun _ _ hboth => hboth.1, ih⟩

end Dumped

end Dumped

section Loop

variable {ε : Type} {memory : Reader (Except ε)} {word byte : Int → Int}

theorem readEach_ok {read : Int → Except ε Int} {value : Int → Int}
    (h : ∀ {address v}, read address = .ok v → value address = v) (step : Int) :
    ∀ (count : Nat) (address : Int) {values : List Int},
      readEach read step address count = .ok values →
        values = ((List.range count).map fun i : Nat => value (address + step * i))
          ∧ ∀ i : Nat, i < count → read (address + step * i) = .ok (value (address + step * i))
  | 0, _, values, hok => by
    cases hok
    exact ⟨rfl, fun i hi => absurd hi (Nat.not_lt_zero i)⟩
  | count + 1, address, values, hok => by
    obtain ⟨v, hv, hok⟩ := bind_eq_ok_iff.mp hok
    obtain ⟨rest, hrest, hok⟩ := bind_eq_ok_iff.mp hok
    obtain ⟨rfl, hread⟩ := readEach_ok h step count (address + step) hrest
    cases hok
    refine ⟨?_, fun i hi => ?_⟩
    · rw [List.range_succ_eq_map]
      simp [Function.comp_def, add_step_succ, h hv]
    · cases i with
      | zero => simpa [h hv] using hv
      | succ i =>
        rw [← add_step_succ]
        exact hread i (Nat.lt_of_succ_lt_succ hi)

/-- The words of a stretch can be read. -/
def Reader.Tells (memory : Reader (Except ε)) (word : Int → Int) (address : Int) (n : Nat) : Prop :=
  ∀ i, i < n → memory.readWord (wordAt address i) = .ok (word (wordAt address i))

theorem Reader.Tells.append {address : Int} {n k : Nat} (hle : k ≤ n)
    (h : memory.Tells word address k) (h' : memory.Tells word (address + wordSize * k) (n - k)) :
    memory.Tells word address n := by
  intro i hi
  rcases Nat.lt_or_ge i k with hlt | hge
  · exact h i hlt
  · obtain ⟨j, rfl⟩ := Nat.exists_eq_add_of_le hge
    rw [← wordAt_add]
    exact h' j (by omega)

variable (holds : memory.Holds word byte)

include holds

theorem zeroRunFrom_ok : ∀ (limit count : Nat) (address : Int) {total : Nat},
    zeroRunFrom memory count address limit = .ok total →
      ∃ run, total = count + run ∧ run ≤ limit ∧ memory.Tells word address run
        ∧ (∀ i, i < run → toWord (word (wordAt address i)) = 0)
        ∧ (run < limit → toWord (word (wordAt address run)) ≠ 0)
  | 0, count, _, total, h => by
    cases h
    exact ⟨0, rfl, Nat.le_refl 0, fun i hi => by omega, fun i hi => by omega, fun h => by omega⟩
  | limit + 1, count, address, total, h => by
    obtain ⟨w, hw, h⟩ := bind_eq_ok_iff.mp h
    have hword := holds.word hw
    split_ifs at h with hz
    · obtain ⟨run, rfl, hle, htells, hzero, hends⟩ := zeroRunFrom_ok limit _ _ h
      have hfirst : memory.Tells word address 1 := by
        intro i hi
        rw [Nat.lt_one_iff.mp hi, wordAt_zero, hword, hw]
      refine ⟨run + 1, by omega, by omega, hfirst.append (by omega) (by simpa using htells),
        fun i hi => ?_, fun hlt => ?_⟩
      · cases i with
        | zero => rwa [wordAt_zero, hword]
        | succ i =>
          rw [← wordAt_succ]
          exact hzero i (by omega)
      · rw [← wordAt_succ]
        exact hends (by omega)
    · cases h
      refine ⟨0, rfl, by omega, fun i hi => by omega, fun i hi => by omega, fun _ => ?_⟩
      rwa [wordAt_zero, hword]

theorem readLine_ok {address : Int} {count : Nat} {line : Line}
    (h : readLine memory address count = .ok line) :
    line = dataLine word byte address count ∧ memory.Tells word address count := by
  obtain ⟨words, hwords, h⟩ := bind_eq_ok_iff.mp h
  obtain ⟨bytes, hbytes, h⟩ := bind_eq_ok_iff.mp h
  obtain ⟨rfl, htells⟩ := readEach_ok holds.word wordSize count address hwords
  obtain ⟨rfl, -⟩ := readEach_ok holds.byte 1 (wordSize * count) address hbytes
  cases h
  simp only [Int.one_mul]
  exact ⟨rfl, htells⟩

theorem linesFrom_ok {stop : Int} (remaining : Nat) (address : Int) {lines : List Line}
    (hn : ∀ i, i < remaining ↔ wordAt address i < stop)
    (h : linesFrom memory address remaining = .ok lines) :
    Dumped word byte stop address remaining lines ∧ memory.Tells word address remaining := by
  -- Both a collapsed run and a line of words leave fewer words, so the induction is on their count.
  induction remaining using Nat.strongRecOn generalizing address lines with
  | ind remaining ih =>
    unfold linesFrom at h
    split_ifs at h with h0
    · cases h
      subst h0
      exact ⟨.nil address, fun i hi => by omega⟩
    · obtain ⟨run, hrun, h⟩ := bind_eq_ok_iff.mp h
      obtain ⟨_, hsame, hle, htells, hzero, hends⟩ := zeroRunFrom_ok holds remaining 0 address hrun
      rw [Nat.zero_add] at hsame
      subst hsame
      split_ifs at h with hmin
      · obtain ⟨rest, hrest, h⟩ := bind_eq_ok_iff.mp h
        cases h
        have hpos : 0 < run := Nat.lt_of_lt_of_le (by decide) hmin
        obtain ⟨hdumped, htells'⟩ := ih _ (by omega) _ (Dumped.left_iff hn) hrest
        have htells := htells.append hle htells'
        obtain ⟨n, rfl⟩ := Nat.exists_eq_add_of_le hle
        rw [Nat.add_sub_cancel_left] at hdumped
        exact ⟨.zeros hmin hzero (fun h => hends (by omega)) hdumped, htells⟩
      · obtain ⟨line, hline, h⟩ := bind_eq_ok_iff.mp h
        obtain ⟨rest, hrest, h⟩ := bind_eq_ok_iff.mp h
        cases h
        obtain ⟨rfl, htells⟩ := readLine_ok holds hline
        have hpos := lineCount_pos address (Nat.pos_of_ne_zero h0)
        obtain ⟨hdumped, htells'⟩ :=
          ih _ (by unfold lineCount at hpos; omega) _ (Dumped.left_iff hn) hrest
        have hnoRun : ¬ StartsRun word stop address := by
          -- The word that ended the count is among the first four, and is not zero.
          intro hstarts
          obtain ⟨hstop, hword⟩ := hstarts run (by omega)
          exact hends ((hn run).mpr hstop) hword
        exact ⟨.data (Nat.pos_of_ne_zero h0) hnoRun hdumped,
          htells.append (lineCount_le_left ..) htells'⟩

theorem dumpLines_ok {start stop : Int} {lines : List Line}
    (h : dumpLines memory start stop = .ok lines) :
    let address := roundUp start wordSize
    let n := wordCount address stop
    memory.Tells word address n
      ∧ (Dumped word byte stop address n lines
        ∨ address % lineSize ≠ 0 ∧ 0 < n ∧ ∃ rest,
          lines = dataLine word byte address (lineCount address n) :: rest
            ∧ Dumped word byte stop (address + wordSize * lineCount address n)
              (n - lineCount address n) rest) := by
  intro address n
  have hn := lt_wordCount_iff address stop
  simp only [dumpLines] at h
  split_ifs at h with h0 halign
  · cases h
    have hzero : n = 0 := h0
    rw [hzero]
    exact ⟨fun i hi => by omega, .inl (.nil address)⟩
  · obtain ⟨hdumped, htells⟩ := linesFrom_ok holds n address hn h
    exact ⟨htells, .inl hdumped⟩
  · obtain ⟨line, hline, h⟩ := bind_eq_ok_iff.mp h
    obtain ⟨rest, hrest, h⟩ := bind_eq_ok_iff.mp h
    cases h
    obtain ⟨rfl, htells⟩ := readLine_ok holds hline
    obtain ⟨hdumped, htells'⟩ := linesFrom_ok holds _ _ (Dumped.left_iff hn) hrest
    exact ⟨htells.append (lineCount_le_left ..) htells',
      .inr ⟨halign, Nat.pos_of_ne_zero h0, rest, rfl, hdumped⟩⟩

omit holds in
theorem roundUp_aligned (start : Int) : roundUp start wordSize % wordSize = 0 :=
  Int.mul_emod_left ..

theorem fits_of_dumpLines {start stop : Int} {lines : List Line}
    (h : dumpLines memory start stop = .ok lines) : ∀ line ∈ lines, line.Fits word byte stop := by
  have hn := lt_wordCount_iff (roundUp start wordSize) stop
  have haddress := roundUp_aligned start
  obtain ⟨-, hdumped | ⟨-, hpos, rest, rfl, hdumped⟩⟩ := dumpLines_ok holds h
  · exact hdumped.fits haddress hn
  · rintro line (_ | ⟨_, hline⟩)
    · exact fits_dataLine haddress hpos hn
    · exact hdumped.fits (Dumped.aligned_add haddress _) (Dumped.left_iff hn) line hline

/-- Whenever a memory can be dumped, its words from the first whole one at or after the start up to
the end can be read, and the lines cover them in order. Each line that is not collapsed has one to
four words, within sixteen bytes, and ends early only with these or with the dump. Each collapsed
line is of at least four zero words, and of all there are. A line that is not collapsed begins with
no such run, unless it is the first of a dump that begins off a line boundary, and no two collapsed
lines follow one another. -/
theorem dump_has_shape {start stop : Int} {base : Base} {texts : List String}
    (h : formatMemory memory start stop base = .ok texts) :
    let address := roundUp start wordSize
    ∃ lines, texts = lines.map (Line.render base)
      ∧ memory.Tells word address (wordCount address stop)
      ∧ Covers word byte address (wordCount address stop) lines
      ∧ (∀ line ∈ lines, line.Fits word byte stop)
      ∧ (∀ i first words bytes, lines[i]? = some (.data first words bytes) →
          StartsRun word stop first → i = 0 ∧ address % lineSize ≠ 0)
      ∧ lines.IsChain fun a b => ¬ (a.Collapsed ∧ b.Collapsed) := by
  intro address
  obtain ⟨lines, hlines, htexts⟩ := bind_eq_ok_iff.mp h
  cases htexts
  have hfits := fits_of_dumpLines holds hlines
  obtain ⟨htells, hdumped | ⟨halign, hpos, rest, rfl, hdumped⟩⟩ := dumpLines_ok holds hlines
  · refine ⟨lines, rfl, htells, hdumped.covers, hfits,
      fun i first words bytes hi hstarts => ?_, hdumped.isChain⟩
    exact absurd hstarts (hdumped.not_startsRun first words bytes (List.mem_of_getElem? hi))
  · refine ⟨_, rfl, htells, ?_, hfits, fun i first words bytes hi hstarts => ?_, ?_⟩
    · have hcovers := Covers.data (lineCount_pos _ hpos) (lineCount_le ..) hdumped.covers
      rwa [Nat.add_sub_cancel' (lineCount_le_left ..)] at hcovers
    · cases i with
      | zero => exact ⟨rfl, halign⟩
      | succ i =>
        exact absurd hstarts (hdumped.not_startsRun first words bytes (List.mem_of_getElem? hi))
    · exact List.isChain_cons.mpr ⟨fun _ _ hboth => hboth.1, hdumped.isChain⟩

end Loop

/-- A memory that can be read from address 8 up to 64 and nowhere else, zero below 32. -/
def island : Reader (Except Unit) where
  readWord address := if 8 ≤ address ∧ address < 64 then .ok (rampWord address) else .error ()
  readByte address := if 8 ≤ address ∧ address < 64 then .ok 65 else .error ()

theorem holds_island : island.Holds rampWord fun _ => 65 where
  word h := by
    unfold island at h
    dsimp only at h
    split_ifs at h
    exact Except.ok.inj h
  byte h := by
    unfold island at h
    dsimp only at h
    split_ifs at h
    exact Except.ok.inj h

def islandDump : List String :=
  ["[00000008]  0000000000  0000000000                          AAAAAAAA",
   "[00000010]..[0000001c]  0000000000",
   "[00000020]         -12         -16         -20         -24  AAAAAAAAAAAAAAAA",
   "[00000030]         -28         -32         -36         -40  AAAAAAAAAAAAAAAA"]

/-- The dump begins off a boundary with a run of six zero words, two of which are on the leading
partial line. -/
theorem island_has_shape :
    island.Holds rampWord (fun _ => 65)
      ∧ formatMemory island 5 61 .decimal = .ok islandDump
      ∧ StartsRun rampWord 61 8
      ∧ ∃ lines, islandDump = lines.map (Line.render .decimal)
        ∧ Covers rampWord (fun _ => 65) 8 14 lines
        ∧ (∀ line ∈ lines, line.Fits rampWord (fun _ => 65) 61)
        ∧ lines.IsChain fun a b => ¬ (a.Collapsed ∧ b.Collapsed) := by
  have hdump : formatMemory island 5 61 .decimal = .ok islandDump := by decide +kernel
  obtain ⟨lines, htexts, -, hcovers, hfits, -, hchain⟩ := dump_has_shape holds_island hdump
  exact ⟨holds_island, hdump, by decide, lines, htexts, hcovers, hfits, hchain⟩

end Stepboard.Memory
