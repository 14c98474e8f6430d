import Mathlib.Data.Nat.Digits.Defs
import Stepboard.Memory.Dump
import Stepboard.Memory.ZeroRun
import Stepboard.Proofs.Numerals
/-!
# The text of collapsed lines

A collapsed line is read by its grammar and nothing else is (`ofChars?_eq_some_iff`): two tags of
eight digits joined by two full stops, blanks, zeros, and the addresses in order. Around it there
may be white space, which is all that trimming takes (`parse?_eq_some_iff`). The line that a dump
writes for a run of zero words is of the grammar in each base (`collapsed_zeros`).
-/

namespace Stepboard

namespace Numeral

theorem digitChar_of_hexValue? {c : Char} {d : Nat} (h : hexValue? c = some d) :
    d < 16 ∧ c = Nat.digitChar d := by
  have hdecimal : ∀ n ∈ List.range 10, Char.ofNat (48 + n) = Nat.digitChar n := by decide
  have hletter : ∀ n ∈ List.range 6, Char.ofNat (97 + n) = Nat.digitChar (n + 10) := by decide
  unfold hexValue? at h
  split_ifs at h with hd hl
  · obtain ⟨hlow, hhigh⟩ := hd
    have hlow' : 48 ≤ c.toNat := hlow
    have hhigh' : c.toNat ≤ 57 := hhigh
    cases h
    have hzero : '0'.toNat = 48 := rfl
    refine ⟨by omega, ?_⟩
    rw [← hdecimal _ (List.mem_range.mpr (by omega)), hzero, Nat.add_sub_cancel' hlow',
      Char.ofNat_toNat]
  · obtain ⟨hlow, hhigh⟩ := hl
    have hlow' : 97 ≤ c.toNat := hlow
    have hhigh' : c.toNat ≤ 102 := hhigh
    cases h
    have ha : 'a'.toNat = 97 := rfl
    refine ⟨by omega, ?_⟩
    rw [← hletter _ (List.mem_range.mpr (by omega)), ha, Nat.add_sub_cancel' hlow',
      Char.ofNat_toNat]

theorem readFrom_eq_some_iff {base : Nat} (hb : base ≤ 16) (cs : List Char) (acc n : Nat) :
    readFrom base acc cs = some n ↔ ∃ ds : List Nat, (∀ d ∈ ds, d < base)
      ∧ cs = ds.map Nat.digitChar ∧ n = ds.foldl (fun acc d => base * acc + d) acc := by
  induction cs generalizing acc with
  | nil =>
    constructor
    · rintro ⟨⟩
      exact ⟨[], by simp, rfl, rfl⟩
    · rintro ⟨ds, -, hds, rfl⟩
      rw [List.map_eq_nil_iff.mp hds.symm]
      rfl
  | cons c cs ih =>
    constructor
    · intro h
      unfold readFrom at h
      split at h
      · rename_i d hd
        split_ifs at h with hlt
        obtain ⟨ds, hds, rfl, rfl⟩ := (ih _).mp h
        obtain ⟨-, rfl⟩ := digitChar_of_hexValue? hd
        exact ⟨d :: ds, List.forall_mem_cons.mpr ⟨hlt, hds⟩, rfl, rfl⟩
      · cases h
    · rintro ⟨ds, hds, hcs, rfl⟩
      obtain ⟨d, ds, rfl, rfl, rfl⟩ := List.map_eq_cons_iff.mp hcs.symm
      obtain ⟨hd, hds⟩ := List.forall_mem_cons.mp hds
      rw [readFrom, hexValue?_digitChar (by omega)]
      simp only [hd, if_true]
      exact (ih _).mpr ⟨ds, hds, rfl, rfl⟩

/-- Characters that are the digits of a number in a base, the highest of them first. -/
def Writes (base : Nat) (cs : List Char) (n : Nat) : Prop :=
  ∃ ds : List Nat, (∀ d ∈ ds, d < base) ∧ cs = ds.map Nat.digitChar
    ∧ n = Nat.ofDigits base ds.reverse

theorem read_eq_some_iff {base : Nat} (hb : base ≤ 16) {cs : List Char} {n : Nat} :
    read base cs = some n ↔ Writes base cs n := by
  have hvalue : ∀ ds : List Nat,
      ds.foldl (fun acc d => base * acc + d) 0 = Nat.ofDigits base ds.reverse := by
    intro ds
    rw [Nat.ofDigits_eq_foldr, List.foldr_reverse]
    simp only [Nat.cast_id, Nat.add_comm]
  simp only [read, readFrom_eq_some_iff hb, Writes, hvalue]

end Numeral

namespace Text

theorem isBlank_of_mem_takeWhile {cs : List Char} : ∀ c ∈ cs.takeWhile isBlank, isBlank c = true :=
  List.all_eq_true.mp List.all_takeWhile

/-- Trimming takes white space away from both ends, and nothing else. -/
theorem exists_around_trim (cs : List Char) : ∃ before after, cs = before ++ trim cs ++ after
    ∧ (∀ c ∈ before, isBlank c = true) ∧ ∀ c ∈ after, isBlank c = true := by
  refine ⟨cs.takeWhile isBlank, ((cs.dropWhile isBlank).reverse.takeWhile isBlank).reverse, ?_,
    isBlank_of_mem_takeWhile, fun c hc => isBlank_of_mem_takeWhile c (List.mem_reverse.mp hc)⟩
  rw [List.append_assoc, trim, trimEnd, ← List.reverse_append, List.takeWhile_append_dropWhile,
    List.reverse_reverse, List.takeWhile_append_dropWhile]

theorem trim_around {before after mid : List Char} {c d : Char}
    (hbefore : ∀ c ∈ before, isBlank c = true) (hafter : ∀ c ∈ after, isBlank c = true)
    (hc : isBlank c = false) (hd : isBlank d = false) :
    trim (before ++ (c :: mid ++ [d]) ++ after) = c :: mid ++ [d] := by
  have hdrop : (before ++ (c :: mid ++ [d]) ++ after).dropWhile isBlank
      = c :: mid ++ [d] ++ after := by
    rw [List.append_assoc, List.dropWhile_append_of_pos hbefore]
    simp [hc]
  have hend : (c :: mid ++ [d] ++ after).reverse.dropWhile isBlank = (c :: mid ++ [d]).reverse := by
    rw [List.reverse_append,
      List.dropWhile_append_of_pos fun c hc => hafter c (List.mem_reverse.mp hc)]
    simp [hd]
  rw [trim, hdrop, trimEnd, hend, List.reverse_reverse]

end Text

namespace Memory

namespace ZeroRun

/-- A bracketed address of eight digits. -/
def IsTag (cs : List Char) (n : Nat) : Prop :=
  ∃ digits, digits.length = 8 ∧ Numeral.Writes 16 digits n ∧ cs = '[' :: digits ++ [']']

theorem IsTag.length {cs : List Char} {n : Nat} (h : IsTag cs n) : cs.length = 10 := by
  obtain ⟨digits, hlength, -, rfl⟩ := h
  simp [hlength]

/-- One or more characters of white space. -/
def IsGap (cs : List Char) : Prop :=
  cs ≠ [] ∧ ∀ c ∈ cs, Text.isBlank c = true

/-- One or more zeros. -/
def IsZero (cs : List Char) : Prop :=
  cs ≠ [] ∧ ∀ c ∈ cs, c = '0'

/-- A collapsed line without white space around it, and its first and last address. -/
inductive Collapsed : List Char → Nat → Nat → Prop
  | intro {tag tag' gap zeros : List Char} {first last : Nat} (htag : IsTag tag first)
      (htag' : IsTag tag' last) (hgap : IsGap gap) (hzeros : IsZero zeros) (hle : first ≤ last) :
      Collapsed (tag ++ ['.', '.'] ++ tag' ++ gap ++ zeros) first last

theorem readTag_eq_some_iff {cs rest : List Char} {n : Nat} :
    readTag cs = some (n, rest) ↔ ∃ tag, IsTag tag n ∧ cs = tag ++ rest := by
  constructor
  · intro h
    unfold readTag at h
    split at h
    · rename_i cs'
      dsimp only at h
      split at h
      · rename_i rest' hdrop
        split_ifs at h with hlen
        obtain ⟨m, hm, hpair⟩ := Option.map_eq_some_iff.mp h
        cases hpair
        refine ⟨'[' :: cs'.take 8 ++ [']'],
          ⟨cs'.take 8, hlen, (Numeral.read_eq_some_iff (by omega)).mp hm, rfl⟩, ?_⟩
        rw [List.append_assoc, List.cons_append, List.singleton_append, ← hdrop,
          List.take_append_drop]
      · cases h
    · cases h
  · rintro ⟨_, ⟨digits, hlen, hwrites, rfl⟩, rfl⟩
    have hread : Numeral.ofHex? digits = some n :=
      (Numeral.read_eq_some_iff (by omega)).mpr hwrites
    have htake : (digits ++ ']' :: rest).take 8 = digits := by rw [← hlen, List.take_left]
    have hdrop : (digits ++ ']' :: rest).drop 8 = ']' :: rest := by rw [← hlen, List.drop_left]
    have happend : '[' :: digits ++ [']'] ++ rest = '[' :: (digits ++ ']' :: rest) := by simp
    rw [happend, readTag]
    simp only [htake, hdrop, hlen, hread, if_true, Option.map_some]

theorem isZeroTail_iff {cs : List Char} :
    isZeroTail cs = true ↔ ∃ gap zeros, IsGap gap ∧ IsZero zeros ∧ cs = gap ++ zeros := by
  constructor
  · intro h
    simp only [isZeroTail, Bool.and_eq_true, Bool.not_eq_true', List.all_eq_true, beq_iff_eq,
      List.isEmpty_eq_false_iff] at h
    obtain ⟨⟨hhead, hne⟩, hzeros⟩ := h
    refine ⟨cs.takeWhile Text.isBlank, cs.dropWhile Text.isBlank,
      ⟨?_, Text.isBlank_of_mem_takeWhile⟩, ⟨hne, hzeros⟩, List.takeWhile_append_dropWhile.symm⟩
    cases cs with
    | nil => simp at hne
    | cons c cs =>
      have hc : Text.isBlank c = true := by simpa using hhead
      simp [hc]
  · rintro ⟨gap, zeros, ⟨hne, hgap⟩, ⟨hne', hzeros⟩, rfl⟩
    obtain ⟨b, gap, rfl⟩ := List.exists_cons_of_ne_nil hne
    obtain ⟨z, zeros, rfl⟩ := List.exists_cons_of_ne_nil hne'
    have hzero : Text.isBlank z = false := by
      rw [hzeros z List.mem_cons_self]
      rfl
    have hdrop : (b :: gap ++ z :: zeros).dropWhile Text.isBlank = z :: zeros := by
      rw [List.dropWhile_append_of_pos hgap, List.dropWhile_cons_of_neg (by simp [hzero])]
    rw [isZeroTail, hdrop]
    simpa [hgap b List.mem_cons_self] using hzeros

theorem ofChars?_eq_some_iff {cs : List Char} {run : ZeroRun} :
    ofChars? cs = some run
      ↔ ∃ first last, Collapsed cs first last ∧ run = ⟨first, last + wordSize⟩ := by
  constructor
  · intro h
    unfold ofChars? at h
    obtain ⟨⟨first, rest⟩, hread, hrest⟩ := Option.bind_eq_some_iff.mp h
    obtain ⟨tag, htag, rfl⟩ := readTag_eq_some_iff.mp hread
    dsimp only at hrest
    split at hrest
    · rename_i rest'
      obtain ⟨⟨last, tail⟩, hread', htail⟩ := Option.bind_eq_some_iff.mp hrest
      obtain ⟨tag', htag', rfl⟩ := readTag_eq_some_iff.mp hread'
      dsimp only at htail
      split_ifs at htail with hboth
      obtain ⟨hzero, hle⟩ := Bool.and_eq_true_iff.mp hboth
      obtain ⟨gap, zeros, hgap, hzeros, rfl⟩ := isZeroTail_iff.mp hzero
      cases htail
      refine ⟨first, last, ?_, rfl⟩
      have happend : tag ++ '.' :: '.' :: (tag' ++ (gap ++ zeros))
          = tag ++ ['.', '.'] ++ tag' ++ gap ++ zeros := by simp
      rw [happend]
      exact .intro htag htag' hgap hzeros (of_decide_eq_true hle)
    · cases hrest
  · rintro ⟨first, last, ⟨htag, htag', hgap, hzeros, hle⟩, rfl⟩
    rename_i tag tag' gap zeros
    have hfirst : readTag (tag ++ '.' :: '.' :: (tag' ++ (gap ++ zeros)))
        = some (first, '.' :: '.' :: (tag' ++ (gap ++ zeros))) :=
      readTag_eq_some_iff.mpr ⟨tag, htag, rfl⟩
    have hlast : readTag (tag' ++ (gap ++ zeros)) = some (last, gap ++ zeros) :=
      readTag_eq_some_iff.mpr ⟨tag', htag', rfl⟩
    have htail : isZeroTail (gap ++ zeros) = true :=
      isZeroTail_iff.mpr ⟨gap, zeros, hgap, hzeros, rfl⟩
    have happend : tag ++ ['.', '.'] ++ tag' ++ gap ++ zeros
        = tag ++ '.' :: '.' :: (tag' ++ (gap ++ zeros)) := by simp
    rw [happend, ofChars?, hfirst]
    simp only [Option.bind_eq_bind, Option.bind_some, hlast, htail, hle, decide_true,
      Bool.and_self, if_true]

theorem Collapsed.ends {cs : List Char} {first last : Nat} (h : Collapsed cs first last) :
    ∃ mid, cs = '[' :: mid ++ ['0'] := by
  obtain ⟨⟨digits, -, -, rfl⟩, -, -, ⟨hne, hzeros⟩, -⟩ := h
  rename_i tag' gap zeros
  obtain ⟨zeros, z, rfl⟩ := (List.eq_nil_or_concat zeros).resolve_left hne
  rw [hzeros z (by simp)]
  exact ⟨digits ++ [']', '.', '.'] ++ tag' ++ gap ++ zeros, by simp⟩

/-- A line is read just if it is a collapsed one within white space. -/
theorem parse?_eq_some_iff {line : String} {run : ZeroRun} :
    parse? line = some run ↔ ∃ before cs after first last, line.toList = before ++ cs ++ after
      ∧ (∀ c ∈ before, Text.isBlank c = true) ∧ (∀ c ∈ after, Text.isBlank c = true)
      ∧ Collapsed cs first last ∧ run = ⟨first, last + wordSize⟩ := by
  rw [parse?, ofChars?_eq_some_iff]
  constructor
  · rintro ⟨first, last, hcollapsed, hrun⟩
    obtain ⟨before, after, hline, hbefore, hafter⟩ := Text.exists_around_trim line.toList
    exact ⟨before, _, after, first, last, hline, hbefore, hafter, hcollapsed, hrun⟩
  · rintro ⟨before, cs, after, first, last, hline, hbefore, hafter, hcollapsed, hrun⟩
    refine ⟨first, last, ?_, hrun⟩
    obtain ⟨mid, rfl⟩ := hcollapsed.ends
    rwa [hline, Text.trim_around hbefore hafter (by decide) (by decide)]

/-- A line that ends in neither white space nor a zero is not read. -/
theorem parse?_eq_none_of_end {line : String} {cs : List Char} {c : Char}
    (hline : line.toList = cs ++ [c]) (hc : Text.isBlank c = false) (hzero : c ≠ '0') :
    parse? line = none := by
  by_contra hread
  obtain ⟨run, hrun⟩ := Option.ne_none_iff_exists'.mp hread
  obtain ⟨before, _, after, first, last, hsplit, -, hafter, hcollapsed, -⟩ :=
    parse?_eq_some_iff.mp hrun
  obtain ⟨mid, rfl⟩ := hcollapsed.ends
  have hsame := hline.symm.trans hsplit
  rcases List.eq_nil_or_concat after with rfl | ⟨after, d, rfl⟩
  · have happend : cs ++ [c] = before ++ '[' :: mid ++ ['0'] := by simpa using hsame
    exact hzero (List.cons.inj (List.append_inj' happend rfl).2).1
  · have happend : cs ++ [c] = before ++ ('[' :: mid ++ ['0']) ++ after ++ [d] := by
      simpa using hsame
    rw [(List.cons.inj (List.append_inj' happend rfl).2).1, hafter d (by simp)] at hc
    cases hc

/-- A line with a tag and then no full stop is not read. -/
theorem parse?_eq_none_of_tag {line : String} {tag cs : List Char} {c : Char} {n : Nat}
    (hline : line.toList = tag ++ c :: cs) (htag : IsTag tag n) (hc : c ≠ '.') :
    parse? line = none := by
  by_contra hread
  obtain ⟨run, hrun⟩ := Option.ne_none_iff_exists'.mp hread
  obtain ⟨before, _, after, first, last, hsplit, hbefore, -, hcollapsed, -⟩ :=
    parse?_eq_some_iff.mp hrun
  obtain ⟨htag', -, -, -, -⟩ := hcollapsed
  rename_i tag' tag'' gap zeros
  have hsame := hline.symm.trans hsplit
  -- The first bracket is no white space, so the tags stand at the same place.
  have hnil : before = [] := by
    cases before with
    | nil => rfl
    | cons b before =>
      obtain ⟨digits, -, -, rfl⟩ := htag
      have hb := (List.cons.inj hsame).1
      have hblank := hbefore b List.mem_cons_self
      rw [← hb] at hblank
      cases hblank
  have hlength : tag.length = tag'.length := by rw [htag.length, htag'.length]
  have happend : before ++ (tag' ++ ['.', '.'] ++ tag'' ++ gap ++ zeros) ++ after
      = tag' ++ '.' :: ('.' :: (tag'' ++ gap ++ zeros ++ after)) := by simp [hnil]
  have hrest := (List.append_inj (hsame.trans happend) hlength).2
  exact hc (List.cons.inj hrest).1

/-- The words of a run are as many as there are addresses a word apart from its first one on. -/
theorem expand_of_parse? {line : String} {run : ZeroRun} (h : parse? line = some run) :
    ∃ count, (∀ i, i < count ↔ run.first + wordSize * i < run.stop)
      ∧ expand line = (List.range count).map fun i => (run.first + wordSize * i, 0) := by
  refine ⟨run.wordCount, fun i => ?_, ?_⟩
  · simp only [wordCount, wordSize]
    omega
  · rw [expand, h]
    simp only [addresses, List.map_map, Function.comp_def]

theorem isTag_tagChars (address : Int) : IsTag (tagChars address) (toWord address) :=
  ⟨_, Numeral.length_fixed .., (Numeral.read_eq_some_iff (by omega)).mp
    (Numeral.read_fixed (by omega) (by omega) (Nat.lt_of_lt_of_eq (toWord_lt address) rfl)), rfl⟩

theorem wordChars_zero (base : Base) : wordChars base 0 = List.replicate base.width '0' := by
  cases base <;> decide

theorem collapsed_zeros (base : Base) {first last : Int} (h : toWord first ≤ toWord last) :
    Collapsed ((Line.zeros first last).chars base) (toWord first) (toWord last) := by
  have hblank : Text.isBlank ' ' = true := rfl
  have hgap : IsGap [' ', ' '] := ⟨List.cons_ne_nil _ _, by simpa using hblank⟩
  have hzero : IsZero (List.replicate base.width '0') :=
    ⟨by cases base <;> simp [Base.width], fun _ hc => List.eq_of_mem_replicate hc⟩
  rw [Line.chars, wordChars_zero]
  exact .intro (isTag_tagChars first) (isTag_tagChars last) hgap hzero h

theorem parse?_zeros (base : Base) {first last : Int} (h : toWord first ≤ toWord last) :
    parse? ((Line.zeros first last).render base)
      = some ⟨toWord first, toWord last + wordSize⟩ :=
  parse?_eq_some_iff.mpr ⟨[], _, [], _, _, by simp [Line.render], by simp, by simp,
    collapsed_zeros base h, rfl⟩

theorem parse?_zeros_of_lt (base : Base) {first last : Int} (h0 : 0 ≤ first) (hle : first ≤ last)
    (hlt : last < wordLimit) : parse? ((Line.zeros first last).render base)
      = some ⟨first.toNat, last.toNat + wordSize⟩ := by
  have hfirst : toWord first = first.toNat := by rw [toWord, Int.emod_eq_of_lt h0 (by omega)]
  have hlast : toWord last = last.toNat := by rw [toWord, Int.emod_eq_of_lt (by omega) hlt]
  rw [parse?_zeros base (by omega), hfirst, hlast]

/-- A line is read as a run just if, white space around it apart, it is two tags of eight digits
joined by two full stops, a gap, and zeros, and the first address is not above the last; the run
goes up to the word at the last address. Expanding it gives each of its words once, in order, and
expanding any other line gives none. The line that a dump writes for a run is read as that run, in
every base. -/
theorem collapsed_lines_are_read :
    (∀ line run, parse? line = some run ↔ ∃ before cs after first last,
        line.toList = before ++ cs ++ after
          ∧ (∀ c ∈ before, Text.isBlank c = true) ∧ (∀ c ∈ after, Text.isBlank c = true)
          ∧ Collapsed cs first last ∧ run = ⟨first, last + wordSize⟩)
      ∧ (∀ line run, parse? line = some run →
        ∃ count, (∀ i, i < count ↔ run.first + wordSize * i < run.stop)
          ∧ expand line = (List.range count).map fun i => (run.first + wordSize * i, 0))
      ∧ (∀ line, parse? line = none → expand line = [])
      ∧ ∀ (base : Base) (first last : Int), 0 ≤ first → first ≤ last → last < wordLimit →
        parse? ((Line.zeros first last).render base)
          = some ⟨first.toNat, last.toNat + wordSize⟩ := by
  refine ⟨fun _ _ => parse?_eq_some_iff, fun _ _ => expand_of_parse?, fun line h => ?_,
    fun base _ _ => parse?_zeros_of_lt base⟩
  rw [expand, h]

/-- A run of four words that is off a line boundary, as a dump writes it and with white space of
another kind in and around it. -/
theorem four_words_are_read :
    parse? ((Line.zeros 0x1001000c 0x10010018).render .decimal) = some ⟨0x1001000c, 0x1001001c⟩
      ∧ parse? "\u00a0[1001000c]..[10010018]\t\u2003\x0b0\n" = some ⟨0x1001000c, 0x1001001c⟩
      ∧ expand "\u00a0[1001000c]..[10010018]\t\u2003\x0b0\n"
        = [(0x1001000c, 0), (0x10010010, 0), (0x10010014, 0), (0x10010018, 0)] := by
  obtain ⟨-, hexpand, -, hwritten⟩ := collapsed_lines_are_read
  have hparse : parse? "\u00a0[1001000c]..[10010018]\t\u2003\x0b0\n"
      = some ⟨0x1001000c, 0x1001001c⟩ := by decide +kernel
  obtain ⟨count, hcount, hwords⟩ := hexpand _ _ hparse
  have h3 := (hcount 3).mpr (by decide)
  have h4 := mt (hcount 4).mp (by decide)
  obtain rfl : count = 4 := by omega
  exact ⟨hwritten .decimal 0x1001000c 0x10010018 (by decide) (by decide) (by decide), hparse,
    hwords⟩

end ZeroRun

end Memory

end Stepboard
