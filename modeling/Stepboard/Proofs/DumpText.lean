import Stepboard.Proofs.CollapsedLines
/-!
# Reading the lines of a dump

The text of a dump tells its words. A collapsed line names its first and its last word; on any other
line the tag names the first word, the length tells how many words there are, and the words stand
between blanks (`decodeLine_zeros`, `decodeLine_data`).
-/

namespace Stepboard.Memory

def Base.digitBase : Base → Nat
  | .decimal => 10
  | .hexadecimal => 16
  | .binary => 2

/-- The word that characters stand for. -/
def wordOf? (base : Base) : List Char → Option Nat
  | '-' :: cs => (Numeral.read base.digitBase cs).map fun n => toWord (-n)
  | cs => Numeral.read base.digitBase cs

/-- Takes a word and the blanks before it off a text. -/
def takeWord (base : Base) (cs : List Char) : Option (Nat × List Char) :=
  let cs := cs.dropWhile (· == ' ')
  (wordOf? base (cs.takeWhile (· != ' '))).map (·, cs.dropWhile (· != ' '))

def takeWords (base : Base) : Nat → List Char → Option (List Nat)
  | 0, _ => some []
  | count + 1, cs => do
    let (word, cs) ← takeWord base cs
    let words ← takeWords base count cs
    some (word :: words)

/-- The length of a line that is not collapsed, apart from its bytes and what a word exceeds its
column by. -/
def frameLength (base : Base) : Nat :=
  12 + lineWords * (base.width + 2)

/-- The words on a line that is not collapsed. Each adds four bytes to the length of the line and
exceeds its column by one character at most. -/
def wordsOn (base : Base) (cs : List Char) : Nat :=
  min lineWords ((cs.length - frameLength base) / wordSize)

/-- The addresses on a line and their words, by its text. -/
def decodeLine (base : Base) (line : String) : List (Int × Int) :=
  match ZeroRun.parse? line with
  | some _ => (ZeroRun.expand line).map fun (address, word) => (address, word)
  | none =>
    match ZeroRun.readTag line.toList with
    | some (address, cs) =>
      ((takeWords base (wordsOn base line.toList) cs).getD []).mapIdx fun i (word : Nat) =>
        (address + wordSize * i, word)
    | none => []

/-- The addresses in a dump and their words, by its text. -/
def decode (base : Base) (lines : List String) : List (Int × Int) :=
  lines.flatMap (decodeLine base)

theorem toWord_eq_emod (value : Int) : (toWord value : Int) = value % wordLimit :=
  Int.toNat_of_nonneg (Int.emod_nonneg value (by decide))

theorem toWord_of_lt {value : Int} (h0 : 0 ≤ value) (h : value < wordLimit) :
    (toWord value : Int) = value := by
  rw [toWord_eq_emod, Int.emod_eq_of_lt h0 h]

theorem toWord_neg_toSigned {value : Int} (h : toSigned value < 0) :
    toWord (-((toSigned value).natAbs : Int)) = toWord value := by
  have hlt := toWord_lt value
  simp only [toSigned, wordLimit] at h hlt ⊢
  split_ifs at h ⊢ with hs
  · omega
  · unfold toWord at hs h hlt ⊢
    simp only [wordLimit] at *
    omega

theorem toSigned_of_nonneg {value : Int} (h : 0 ≤ toSigned value) :
    (toSigned value).toNat = toWord value ∧ toWord value < 0x80000000 := by
  have hlt := toWord_lt value
  simp only [toSigned, wordLimit] at h hlt ⊢
  split_ifs at h ⊢ <;> omega

theorem natAbs_toSigned_le (value : Int) : (toSigned value).natAbs ≤ 0x80000000 := by
  have hlt := toWord_lt value
  simp only [toSigned, wordLimit] at hlt ⊢
  split_ifs <;> omega

section Words

variable (base : Base)

theorem digitBase_spec : 2 ≤ base.digitBase ∧ base.digitBase ≤ 16 := by
  cases base <;> decide

theorem wordOf?_of_digits {cs : List Char} (h : ∀ c ∈ cs, ∃ d, d < 16 ∧ c = Nat.digitChar d) :
    wordOf? base cs = Numeral.read base.digitBase cs := by
  unfold wordOf?
  split
  · obtain ⟨d, hd, hc⟩ := h '-' (by simp)
    exact absurd hc.symm (Numeral.digitChar_spec hd).2
  · rfl

theorem ne_blank_of_digit {c : Char} (h : ∃ d, d < 16 ∧ c = Nat.digitChar d) : c ≠ ' ' := by
  obtain ⟨d, hd, rfl⟩ := h
  have hb := (Numeral.digitChar_spec hd).1
  intro hc
  rw [hc] at hb
  cases hb

/-- A text of blanks and then characters that stand for a word. -/
def WordText (cs : List Char) (word : Nat) : Prop :=
  ∃ blanks token, cs = List.replicate blanks ' ' ++ token ∧ token ≠ [] ∧ (∀ c ∈ token, c ≠ ' ')
    ∧ wordOf? base token = some word

theorem wordText_fixed {width n : Nat} (hw : 0 < width) (hn : n < base.digitBase ^ width) :
    WordText base (Numeral.fixed base.digitBase width n) n := by
  obtain ⟨h2, hb⟩ := digitBase_spec base
  have hdigit : ∀ c ∈ Numeral.fixed base.digitBase width n, ∃ d, d < 16 ∧ c = Nat.digitChar d :=
    fun c hc => Numeral.mem_fixed (by omega) hb hc
  refine ⟨0, _, rfl, ?_, fun c hc => ne_blank_of_digit (hdigit c hc), ?_⟩
  · intro h
    have hlen := congrArg List.length h
    rw [Numeral.length_fixed, List.length_nil] at hlen
    omega
  · rw [wordOf?_of_digits base hdigit, Numeral.read_fixed (by omega) hb hn]

theorem wordText_negative (width n : Nat) :
    WordText base (Numeral.padLeft width ' ' ('-' :: Numeral.digits base.digitBase n))
      (toWord (-n)) := by
  obtain ⟨h2, hb⟩ := digitBase_spec base
  refine ⟨_, _, rfl, by simp, ?_, ?_⟩
  · intro c hc
    rcases List.mem_cons.1 hc with rfl | hc
    · decide
    · exact ne_blank_of_digit (Numeral.mem_digits h2 hb hc)
  · rw [wordOf?, Numeral.read_digits h2 hb]
    rfl

/-- Words are written so that they can be read back. -/
theorem wordText_wordChars (value : Int) : WordText base (wordChars base value) (toWord value) := by
  have hlt := toWord_lt value
  cases base with
  | hexadecimal => exact wordText_fixed .hexadecimal (by omega) (Nat.lt_of_lt_of_eq hlt rfl)
  | binary => exact wordText_fixed .binary (by omega) (Nat.lt_of_lt_of_eq hlt rfl)
  | decimal =>
    simp only [wordChars]
    split_ifs with hs
    · obtain ⟨hn, hlow⟩ := toSigned_of_nonneg hs
      rw [hn]
      exact wordText_fixed .decimal (by omega) (Nat.lt_trans hlow (by decide))
    · rw [← toWord_neg_toSigned (by omega : toSigned value < 0)]
      exact wordText_negative .decimal 10 _

theorem length_wordChars (value : Int) :
    base.width ≤ (wordChars base value).length
      ∧ (wordChars base value).length ≤ base.width + 1 := by
  cases base with
  | hexadecimal => simp [wordChars, Base.width]
  | binary => simp [wordChars, Base.width]
  | decimal =>
    simp only [wordChars, Base.width]
    split_ifs with hs
    · simp
    · have hlen : (Numeral.digits 10 (toSigned value).natAbs).length ≤ 9 + 1 := by
        have habs := natAbs_toSigned_le value
        exact Numeral.length_digits_le (by omega) (Nat.lt_of_le_of_lt habs (by decide))
      simp only [Numeral.padLeft, List.length_append, List.length_replicate, List.length_cons]
      omega

theorem takeWord_of_wordText {cs : List Char} {word : Nat} (h : WordText base cs word)
    (rest : List Char) :
    takeWord base (' ' :: ' ' :: cs ++ ' ' :: rest) = some (word, ' ' :: rest) := by
  obtain ⟨blanks, token, rfl, hne, hmem, hword⟩ := h
  have hdrop : (' ' :: ' ' :: (List.replicate blanks ' ' ++ token) ++ ' ' :: rest).dropWhile
      (· == ' ') = token ++ ' ' :: rest := by
    obtain ⟨c, token, rfl⟩ := List.exists_cons_of_ne_nil hne
    have hc : c ≠ ' ' := hmem c (by simp)
    simp [List.append_assoc, hc]
  have htoken : ∀ c ∈ token, (c != ' ') = true := fun c hc => by simpa using hmem c hc
  simp only [takeWord, hdrop, List.takeWhile_append_of_pos htoken,
    List.dropWhile_append_of_pos htoken]
  simp [hword]

def wordsText (words : List Int) : List Char :=
  words.flatMap fun w => ' ' :: ' ' :: wordChars base w

theorem wordsText_append_blank (words : List Int) (rest : List Char) :
    ∃ rest', wordsText base words ++ ' ' :: rest = ' ' :: rest' := by
  cases words with
  | nil => exact ⟨rest, rfl⟩
  | cons w ws => exact ⟨_, rfl⟩

theorem takeWords_wordsText (words : List Int) (rest : List Char) :
    takeWords base words.length (wordsText base words ++ ' ' :: rest)
      = some (words.map toWord) := by
  induction words with
  | nil => rfl
  | cons w ws ih =>
    -- Whatever follows a word begins with a blank, which is where its characters end.
    obtain ⟨rest', hrest⟩ := wordsText_append_blank base ws rest
    have htake := takeWord_of_wordText base (wordText_wordChars base w) rest'
    rw [← hrest] at htake
    have happend : wordsText base (w :: ws) ++ ' ' :: rest
        = ' ' :: ' ' :: wordChars base w ++ (wordsText base ws ++ ' ' :: rest) := by
      simp [wordsText]
    rw [List.length_cons, takeWords, happend, htake]
    simp only [Option.bind_eq_bind, Option.bind_some, ih, List.map_cons]

theorem length_wordsText (words : List Int) :
    words.length * (base.width + 2) ≤ (wordsText base words).length
      ∧ (wordsText base words).length ≤ words.length * (base.width + 2) + words.length := by
  induction words with
  | nil => simp [wordsText]
  | cons w ws ih =>
    obtain ⟨hlow, hhigh⟩ := length_wordChars base w
    have hlen : (wordsText base (w :: ws)).length
        = 2 + (wordChars base w).length + (wordsText base ws).length := by
      simp [wordsText]
      omega
    rw [hlen, List.length_cons, Nat.succ_mul]
    omega

end Words

section Tags

theorem readTag_tagChars (address : Int) (rest : List Char) :
    ZeroRun.readTag (tagChars address ++ rest) = some (toWord address, rest) :=
  ZeroRun.readTag_eq_some_iff.mpr ⟨_, ZeroRun.isTag_tagChars address, rfl⟩

theorem length_tagChars (address : Int) : (tagChars address).length = 10 := by
  simp [tagChars]

end Tags

section Lines

variable (base : Base)

theorem chars_data (address : Int) (words bytes : List Int) :
    ∃ rest, (Line.data address words bytes).chars base
      = tagChars address ++ (wordsText base words ++ ' ' :: rest) := by
  have hblanks : ∀ (n : Nat) (cs : List Char),
      List.replicate n ' ' ++ ' ' :: cs = ' ' :: (List.replicate n ' ' ++ cs) := by
    intro n cs
    rw [List.append_cons, ← List.replicate_succ', List.replicate_succ, List.cons_append]
  refine ⟨List.replicate ((lineWords - words.length) * (base.width + 2)) ' '
    ++ ' ' :: bytes.map byteChar, ?_⟩
  rw [Line.chars, ← wordsText]
  simp only [List.append_assoc, List.cons_append, List.nil_append, hblanks]

theorem parse?_data (address : Int) (words bytes : List Int) :
    ZeroRun.parse? ((Line.data address words bytes).render base) = none := by
  obtain ⟨rest, hchars⟩ := chars_data base address words bytes
  obtain ⟨rest', hrest⟩ := wordsText_append_blank base words rest
  have htoList : ((Line.data address words bytes).render base).toList
      = tagChars address ++ ' ' :: rest' := by
    rw [Line.render, String.toList_ofList, hchars, hrest]
  exact ZeroRun.parse?_eq_none_of_tag htoList (ZeroRun.isTag_tagChars address) (by decide)

theorem wordsOn_data {address : Int} {words bytes : List Int} (h0 : 0 < words.length)
    (h4 : words.length ≤ lineWords) (hbytes : bytes.length = wordSize * words.length) :
    wordsOn base ((Line.data address words bytes).chars base) = words.length := by
  obtain ⟨hlow, hhigh⟩ := length_wordsText base words
  have hlen : ((Line.data address words bytes).chars base).length
      = 10 + (wordsText base words).length + (lineWords - words.length) * (base.width + 2) + 2
        + bytes.length := by
    rw [Line.chars, ← wordsText]
    simp [length_tagChars]
    omega
  -- Each word adds four to the length, and five if it exceeds its column: for one to four words
  -- the quotients by four are distinct.
  simp only [wordsOn, hlen, hbytes, frameLength, lineWords, wordSize] at h4 ⊢
  cases base <;> simp only [Base.width] at hlow hhigh ⊢ <;> omega

/-- The words of a line that is not collapsed are told by its text. -/
theorem decodeLine_data {address : Int} {n : Nat} {word : Nat → Int} {bytes : List Int}
    (ha : 0 ≤ address) (ha' : address < wordLimit) (h0 : 0 < n) (h4 : n ≤ lineWords)
    (hbytes : bytes.length = wordSize * n) :
    decodeLine base ((Line.data address ((List.range n).map word) bytes).render base)
      = (List.range n).map fun i : Nat => (address + wordSize * i, word i % wordLimit) := by
  have hn : ((List.range n).map word).length = n := by simp
  obtain ⟨rest, hchars⟩ := chars_data base address ((List.range n).map word) bytes
  have hcount : wordsOn base ((Line.data address ((List.range n).map word) bytes).chars base) = n :=
    (wordsOn_data base (by omega) (by omega) (by rw [hn, hbytes])).trans hn
  have htake := takeWords_wordsText base ((List.range n).map word) rest
  rw [hn] at htake
  rw [decodeLine, parse?_data]
  simp only [Line.render, String.toList_ofList, hcount]
  simp only [hchars, readTag_tagChars, htake, Option.getD_some, toWord_of_lt ha ha']
  refine List.ext_getElem (by simp) fun i hi hi' => ?_
  simp [toWord_eq_emod]

theorem parse?_run {address : Int} {run : Nat} (ha : 0 ≤ address) (h0 : 0 < run)
    (hlast : address + wordSize * (run - 1) < wordLimit) :
    ∃ r, ZeroRun.parse? ((Line.zeros address (address + wordSize * (run - 1))).render base) = some r
      ∧ (r.first : Int) = address ∧ r.wordCount = run := by
  have hfirst : (toWord address : Int) = address := toWord_of_lt ha (by
    simp only [wordSize] at hlast
    omega)
  have hlast' : (toWord (address + wordSize * (run - 1)) : Int) = address + wordSize * (run - 1) :=
    toWord_of_lt (by simp only [wordSize]; omega) hlast
  simp only [wordSize] at hlast hlast'
  refine ⟨_, ZeroRun.parse?_zeros base (by simp only [wordSize]; omega), hfirst, ?_⟩
  simp only [ZeroRun.wordCount, wordSize]
  omega

/-- A collapsed line tells all the words of its run. -/
theorem decodeLine_zeros {address : Int} {run : Nat} (ha : 0 ≤ address) (h0 : 0 < run)
    (hlast : address + wordSize * (run - 1) < wordLimit) :
    decodeLine base ((Line.zeros address (address + wordSize * (run - 1))).render base)
      = (List.range run).map fun i : Nat => (address + wordSize * i, 0) := by
  obtain ⟨r, hparse, hfirst, hcount⟩ := parse?_run base ha h0 hlast
  simp only [decodeLine, ZeroRun.expand, hparse, ZeroRun.addresses, hcount, List.map_map,
    Function.comp_def]
  refine List.map_congr_left fun i _ => ?_
  rw [← hfirst]
  push_cast
  rfl

end Lines

end Stepboard.Memory
