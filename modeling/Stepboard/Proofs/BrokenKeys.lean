import Stepboard.Proofs.BoundKeys
/-!
# Keys after broken characters

A character takes as many bytes as its first byte announces, whatever these are. Bytes without an
escape character are so cut into whole frames and, at their end, perhaps one that is cut off
(`frames_or_cutOff`). A key of one byte that comes after whole frames is read as itself; a frame
that is cut off takes it in, and shows a text that begins above ASCII and is no key that acts.
-/

namespace Stepboard.Key

theorem taken_append_rest (bytes : List UInt8) :
    (read bytes).taken ++ (read bytes).rest = bytes := by
  cases bytes <;> simp [read]

namespace Input

theorem take_of_plain : ∀ (n : Nat) {i : Input}, (0x1B : UInt8) ∉ i.bytes →
    (i.take n).1.map (fun stroke => (stroke.key, stroke.taken)) = keysRead n i.bytes
  | 0, i, _ => by simp [take, keysRead]
  | n + 1, i, h => by
    obtain ⟨hkey, htaken, hrest, -⟩ := readKey_eq_read_of_plain fun hhead =>
      h (List.mem_of_mem_head? hhead)
    have hplain : (0x1B : UInt8) ∉ i.readKey.2.bytes := fun hmem => h (by
      rw [← taken_append_rest i.bytes, ← hrest]
      exact List.mem_append_right _ hmem)
    rw [keysRead_succ, ← hkey, ← htaken, ← hrest, ← take_of_plain n hplain]
    rfl

end Input

section Frames

/-- Bytes that are whole frames one after another, each as long as its first byte announces. -/
def Whole (bytes : List UInt8) : Prop :=
  ∃ frames : List (List UInt8), frames.flatten = bytes ∧ ∀ frame ∈ frames, Framed frame

/-- Bytes that fall short of what the first of them announces. -/
def CutOff : List UInt8 → Prop
  | [] => False
  | lead :: tail => tail.length + 1 < frameLength lead

theorem frameLength_pos (lead : UInt8) : 0 < frameLength lead := by
  unfold frameLength announcedLength
  split_ifs <;> omega

theorem framed_or_cutOff (lead : UInt8) (bytes : List UInt8) :
    CutOff (lead :: bytes) ∨ ∃ tail rest, bytes = tail ++ rest ∧ Framed (lead :: tail) := by
  by_cases h : bytes.length + 1 < frameLength lead
  · exact .inl h
  · have hpos := frameLength_pos lead
    refine .inr ⟨bytes.take (frameLength lead - 1), bytes.drop (frameLength lead - 1),
      (List.take_append_drop _ _).symm, ?_⟩
    rw [Framed, List.head?_cons, Option.map_some, List.length_cons, List.length_take]
    exact congrArg some (by omega)

theorem frames_or_cutOff (bytes : List UInt8) :
    Whole bytes ∨ ∃ whole cut, bytes = whole ++ cut ∧ Whole whole ∧ CutOff cut := by
  -- A frame may take many bytes, so the induction is on how many are left.
  induction hn : bytes.length using Nat.strongRecOn generalizing bytes with
  | ind n ih =>
    cases bytes with
    | nil => exact .inl ⟨[], rfl, by simp⟩
    | cons lead bytes =>
      obtain hcut | ⟨tail, rest, rfl, hframed⟩ := framed_or_cutOff lead bytes
      · exact .inr ⟨[], _, rfl, ⟨[], rfl, by simp⟩, hcut⟩
      · have hless : rest.length < n := by
          rw [← hn, List.length_cons, List.length_append]
          omega
        have hfirst : ∀ {more}, Whole more → Whole (lead :: tail ++ more) := by
          rintro more ⟨frames, rfl, hframes⟩
          exact ⟨(lead :: tail) :: frames, rfl, List.forall_mem_cons.2 ⟨hframed, hframes⟩⟩
        obtain hwhole | ⟨whole, cut, rfl, hwhole, hcut⟩ := ih _ hless rest rfl
        · exact .inl (hfirst hwhole)
        · exact .inr ⟨_, cut, by simp, hfirst hwhole, hcut⟩

/-- Bytes that the first of them does not exceed are read as one key, up to the end of the input. -/
theorem readAll_of_chunk {bytes : List UInt8} (h : Chunk bytes) :
    readAll bytes = [⟨keyOf bytes, bytes, []⟩] := by
  cases bytes with
  | nil => exact h.elim
  | cons lead tail =>
    have hlength : tail.length ≤ frameLength lead - 1 := by
      have : tail.length < frameLength lead := h
      omega
    have hread : read (lead :: tail) = ⟨keyOf (lead :: tail), lead :: tail, []⟩ := by
      simp only [read, List.take_of_length_le hlength, List.drop_eq_nil_of_le hlength]
      rfl
    rw [readAll, hread, readAll]

section Last

variable {k : UInt8}

theorem keyOf_of_ascii (hk : k.toNat < 0x80) :
    keyOf [k] = decode (String.ofList [Char.ofNat k.toNat]) := by
  rw [keyOf, Utf8.decodeString, Utf8.decode_ascii hk]
  rfl

theorem ascii_keyOf : ∀ n < 0x80, Ascii (keyOf [UInt8.ofNat n]) := by decide +kernel

/-- A text that begins above ASCII is not the key of a byte of ASCII. -/
theorem ne_keyOf_of_head (hk : k.toNat < 0x80) {c : Char} (hc : 0x80 ≤ c.toNat) (cs : List Char) :
    String.ofList (c :: cs) ≠ keyOf [k] := by
  intro heq
  have hascii := ascii_keyOf k.toNat hk
  rw [UInt8.ofNat_toNat, ← heq] at hascii
  have := hascii.toNat_lt (show c ∈ (String.ofList (c :: cs)).toList by simp)
  omega

theorem CutOff.above_ascii : ∀ {cut : List UInt8}, CutOff cut → (0x1B : UInt8) ∉ cut →
    ∃ lead tail, cut = lead :: tail ∧ 0x80 ≤ lead.toNat
  | lead :: tail, h, hplain => by
    refine ⟨lead, tail, rfl, ?_⟩
    have hlead : lead.toNat ≠ escape.toNat := by
      intro he
      obtain rfl : lead = 0x1B := UInt8.toNat_inj.1 he
      exact hplain List.mem_cons_self
    have hlength : tail.length + 1 < frameLength lead := h
    unfold frameLength announcedLength at hlength
    rw [if_neg hlead] at hlength
    split_ifs at hlength <;> omega

theorem CutOff.chunk : ∀ {cut : List UInt8}, CutOff cut → Chunk (cut ++ [k])
  | lead :: tail, h => by
    have hlength : tail.length + 1 < frameLength lead := h
    rw [List.cons_append, Chunk, List.length_append, List.length_singleton]
    exact hlength

theorem readAll_of_whole {bytes : List UInt8} (h : Whole bytes) (k : UInt8) : ∃ before,
    (readAll (bytes ++ [k])).map (fun p => (p.key, p.taken)) = before ++ [(keyOf [k], [k])] := by
  obtain ⟨frames, rfl, hframes⟩ := h
  have hchunk : Chunk [k] := frameLength_pos k
  rw [readAll_framed hframes, readAll_of_chunk hchunk]
  exact ⟨_, rfl⟩

theorem readAll_of_not_whole {bytes : List UInt8} (h : ¬ Whole bytes)
    (hplain : (0x1B : UInt8) ∉ bytes) (k : UInt8) : ∃ before last,
      (readAll (bytes ++ [k])).map (fun p => (p.key, p.taken)) = before ++ [last]
        ∧ ∃ c cs, last.1 = String.ofList (c :: cs) ∧ 0x80 ≤ c.toNat := by
  obtain hwhole | ⟨whole, cut, rfl, ⟨frames, rfl, hframes⟩, hcut⟩ := frames_or_cutOff bytes
  · exact absurd hwhole h
  · obtain ⟨lead, tail, rfl, hlead⟩ := hcut.above_ascii fun hmem =>
      hplain (List.mem_append_right _ hmem)
    rw [List.append_assoc, readAll_framed hframes, readAll_of_chunk hcut.chunk]
    exact ⟨_, _, rfl, keyOf_above_ascii hlead (tail ++ [k])⟩

end Last

end Frames

/-- Bytes without an escape character that a byte of ASCII other than it ends, however they come:
the last key before the end of the input is that of this byte just if those before it are whole
frames, and otherwise a key that does nothing. -/
theorem key_heard_iff_whole (i : Input) (bytes : List UInt8) (k : UInt8)
    (hbytes : i.bytes = bytes ++ [k]) (hplain : (0x1B : UInt8) ∉ bytes) (hk : k.toNat < 0x80)
    (hescape : k ≠ 0x1B) :
    ∃ (before : List (String × List UInt8)) (last : String × List UInt8),
      (∀ n, (i.take n).1.map (fun stroke => (stroke.key, stroke.taken))
          = (before ++ [last]).take n ++ List.replicate (n - (before.length + 1)) (eof, []))
        ∧ (last.1 = decode (String.ofList [Char.ofNat k.toNat]) ↔ Whole bytes)
        ∧ (¬ Whole bytes → Action.ofKey last.1 = .none) := by
  have htake : ∀ {before last}, (readAll (bytes ++ [k])).map (fun p => (p.key, p.taken))
      = before ++ [last] → ∀ n, (i.take n).1.map (fun stroke => (stroke.key, stroke.taken))
        = (before ++ [last]).take n ++ List.replicate (n - (before.length + 1)) (eof, []) := by
    intro before last hkeys n
    have hlength := congrArg List.length hkeys
    rw [List.length_map, List.length_append, List.length_singleton] at hlength
    rw [Input.take_of_plain n, hbytes, Input.keysRead, hkeys, hlength]
    rw [hbytes]
    simpa using ⟨hplain, fun h => hescape h.symm⟩
  rw [← keyOf_of_ascii hk]
  by_cases hwhole : Whole bytes
  · obtain ⟨before, hkeys⟩ := readAll_of_whole hwhole k
    exact ⟨before, _, htake hkeys, by simp [hwhole], absurd hwhole⟩
  · obtain ⟨before, last, hkeys, c, cs, hlast, hc⟩ := readAll_of_not_whole hwhole hplain k
    refine ⟨before, last, htake hkeys, ⟨fun h => ?_, fun h => absurd h hwhole⟩, fun _ => ?_⟩
    · exact absurd (hlast.symm.trans h) (ne_keyOf_of_head hk hc cs)
    · rw [hlast]
      exact ofKey_of_head hc cs

/-- Bytes of no character, an ill-formed one that is as long as its first byte announces among
them. -/
def strays : List UInt8 :=
  [0xE2, 0x73, 0x6B, 0xFF, 0xA9, 0xC1, 0xC3]

/-- The quit key after them, in chunks that end within a frame. -/
def afterStrays : Input where
  waiting := [0xE2, 0x73]
  coming := [[], [0x6B, 0xFF], [0xA9, 0xC1], [], [0xC3, 0x71]]

theorem quit_heard_after_strays :
    afterStrays.bytes = strays ++ [0x71] ∧ (0x1B : UInt8) ∉ strays ∧ Whole strays
      ∧ ∃ (before : List (String × List UInt8)) (last : String × List UInt8),
        (∀ n, (afterStrays.take n).1.map (fun stroke => (stroke.key, stroke.taken))
            = (before ++ [last]).take n ++ List.replicate (n - (before.length + 1)) (eof, []))
          ∧ last.1 = "q" := by
  have hbytes : afterStrays.bytes = strays ++ [0x71] := by decide
  have hplain : (0x1B : UInt8) ∉ strays := by decide
  have hwhole : Whole strays :=
    ⟨[[0xE2, 0x73, 0x6B], [0xFF], [0xA9], [0xC1, 0xC3]], by decide, by decide⟩
  obtain ⟨before, last, hkeys, hheard, -⟩ :=
    key_heard_iff_whole afterStrays strays 0x71 hbytes hplain (by decide) (by decide)
  exact ⟨hbytes, hplain, hwhole, before, last, hkeys, hheard.2 hwhole⟩

/-- The quit key after the first byte of a character of two is taken into the character. -/
theorem quit_lost_after_lead :
    let i := ({} : Input).feed [0xC3, 0x71]
    i.bytes = [0xC3] ++ [0x71] ∧ (0x1B : UInt8) ∉ [(0xC3 : UInt8)]
      ∧ decode (String.ofList [Char.ofNat 0x71]) = "q" ∧ Action.ofKey "q" = .quit
      ∧ (i.take 3).1.map (fun stroke => (stroke.key, Action.ofKey stroke.key))
        = [("\uFFFDq", .none), (eof, .quit), (eof, .quit)] := by
  decide +kernel

end Stepboard.Key
