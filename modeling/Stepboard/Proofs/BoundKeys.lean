import Stepboard.Key.Action
import Stepboard.Proofs.TypedKeys
/-!
# Only the bound encodings act

Whatever bytes an input has and however they come, its keys split them (`pressed_spec`): a key takes
its first byte and no more after it than that byte calls for (`Chunk`). Such a chunk decodes to the
name of a bound key only if it is one of the encodings of that name (`bound_of_chunk`). An ASCII
byte other than the escape character is a chunk by itself; a chunk that begins above ASCII decodes
to a text that does so as well, and no name does; and a text after the escape character that the
table of sequences knows is ASCII, and so are its bytes.
-/

namespace Stepboard.Key

/-- The encodings of the keys that act, with their names. -/
def boundEncodings : List (List UInt8 × String) :=
  [([0x73], "s"), ([0x20], " "), ([0x0D], "enter"), ([0x0A], "enter"),
   ([0x71], "q"), ([0x03], "ctrl-c"), ([0x09], "tab"),
   ([0x6B], "k"), ([0x6A], "j"), ([0x68], "h"), ([0x6C], "l"),
   ([0x1B, 0x5B, 0x41], "up"), ([0x1B, 0x5B, 0x42], "down"),
   ([0x1B, 0x5B, 0x43], "right"), ([0x1B, 0x5B, 0x44], "left"),
   ([0x1B, 0x4F, 0x41], "up"), ([0x1B, 0x4F, 0x42], "down"),
   ([0x1B, 0x4F, 0x43], "right"), ([0x1B, 0x4F, 0x44], "left"),
   ([0x1B, 0x5B, 0x5A], "shift-tab")]

/-- The bytes of one key: a first byte, and no more after it than it calls for. -/
def Chunk : List UInt8 → Prop
  | [] => False
  | lead :: tail => tail.length < frameLength lead

theorem frameLength_le (lead : UInt8) : frameLength lead ≤ 4 := by
  unfold frameLength announcedLength
  split_ifs <;> omega

namespace Chunk

theorem length_pos : ∀ {bytes : List UInt8}, Chunk bytes → 1 ≤ bytes.length
  | _ :: _, _ => by simp

theorem length_le : ∀ {bytes : List UInt8}, Chunk bytes → bytes.length ≤ 4
  | lead :: tail, h => by
    have := frameLength_le lead
    have : tail.length < frameLength lead := h
    simp only [List.length_cons]
    omega

end Chunk

section Names

/-- A table has no entry for a text that begins with a character that none of its texts begins
with. -/
theorem lookup_eq_none_of_head {α : Type} {table : List (String × α)} {c : Char}
    (h : ∀ e ∈ table, e.1.toList.head? ≠ some c) (cs : List Char) :
    table.lookup (String.ofList (c :: cs)) = none := by
  rw [List.lookup_eq_none_iff]
  intro e he
  rw [bne_iff_ne]
  intro heq
  apply h e he
  rw [← heq, String.toList_ofList]
  rfl

/-- A text of ASCII characters. -/
def Ascii (s : String) : Prop :=
  ∀ n ∈ s.toList.map Char.toNat, n < 0x80

instance (s : String) : Decidable (Ascii s) :=
  inferInstanceAs (Decidable (∀ n ∈ _, _))

theorem Ascii.toNat_lt {s : String} (h : Ascii s) {c : Char} (hc : c ∈ s.toList) :
    c.toNat < 0x80 :=
  h _ (List.mem_map_of_mem hc)

theorem ascii_controlKeys : ∀ e ∈ controlKeys, Ascii e.1 := by decide

theorem ascii_bindings : ∀ e ∈ Action.bindings, Ascii e.1 := by decide

theorem ascii_escapeSequences : ∀ e ∈ escapeSequences, Ascii e.1 := by decide

theorem head_ne_of_ascii {α : Type} {table : List (String × α)} (hascii : ∀ e ∈ table, Ascii e.1)
    {c : Char} (hc : 0x80 ≤ c.toNat) : ∀ e ∈ table, e.1.toList.head? ≠ some c := by
  intro e he heq
  have := (hascii e he).toNat_lt (List.mem_of_mem_head? heq)
  omega

theorem decode_of_head {c : Char} (hc : 0x80 ≤ c.toNat) (cs : List Char) :
    decode (String.ofList (c :: cs)) = String.ofList (c :: cs) := by
  have hescape : c ≠ escape := by
    rintro rfl
    exact absurd hc (by decide)
  unfold decode
  rw [lookup_eq_none_of_head (head_ne_of_ascii ascii_controlKeys hc), String.toList_ofList]
  exact if_neg hescape

theorem decode_escape (cs : List Char) :
    decode (String.ofList (escape :: cs))
      = (escapeSequences.lookup (String.ofList cs)).getD "escape" := by
  unfold decode
  rw [lookup_eq_none_of_head (by decide), String.toList_ofList]
  exact if_pos rfl

theorem ofKey_of_head {c : Char} (hc : 0x80 ≤ c.toNat) (cs : List Char) :
    Action.ofKey (String.ofList (c :: cs)) = .none := by
  unfold Action.ofKey
  rw [lookup_eq_none_of_head (head_ne_of_ascii ascii_bindings hc)]
  rfl

end Names

section Chunks

/-- The key that a chunk is read as. -/
def keyOf (bytes : List UInt8) : String :=
  decode (Utf8.decodeString bytes)

theorem keyOf_bound : ∀ e ∈ boundEncodings, keyOf e.1 = e.2 := by decide

theorem ofKey_bound : ∀ e ∈ boundEncodings, Action.ofKey e.2 ≠ .none := by decide

theorem bound_of_ascii : ∀ n < 0x80, Action.ofKey (keyOf [UInt8.ofNat n]) ≠ .none →
    ([UInt8.ofNat n], keyOf [UInt8.ofNat n]) ∈ boundEncodings := by decide +kernel

theorem escape_of_ascii : ∀ n < 0x80, keyOf [UInt8.ofNat n] = "escape" → n = 0x1B := by
  decide +kernel

theorem bound_of_sequence : ∀ s ∈ escapeSequences,
    (0x1B :: s.1.toList.map fun c => UInt8.ofNat c.toNat, s.2) ∈ boundEncodings := by decide

theorem keyOf_escape (tail : List UInt8) :
    keyOf (0x1B :: tail)
      = (escapeSequences.lookup (String.ofList (Utf8.decode tail))).getD "escape" := by
  rw [keyOf, Utf8.decodeString, Utf8.decode_ascii (by decide)]
  exact decode_escape _

theorem keyOf_above_ascii {lead : UInt8} (hlead : 0x80 ≤ lead.toNat) (tail : List UInt8) :
    ∃ c cs, keyOf (lead :: tail) = String.ofList (c :: cs) ∧ 0x80 ≤ c.toNat := by
  obtain ⟨c, cs, hdecode, hc⟩ := Utf8.decode_above_ascii hlead tail
  exact ⟨c, cs, by rw [keyOf, Utf8.decodeString, hdecode, decode_of_head hc], hc⟩

/-- After the escape character, the bytes of a text in the table are the codes of its characters. -/
theorem bound_of_lookup {tail : List UInt8} {name : String}
    (h : escapeSequences.lookup (String.ofList (Utf8.decode tail)) = some name) :
    (0x1B :: tail, name) ∈ boundEncodings := by
  obtain ⟨before, after, htable, -⟩ := List.lookup_eq_some_iff.1 h
  have hmem : (String.ofList (Utf8.decode tail), name) ∈ escapeSequences := by
    rw [htable]
    simp
  have hascii : ∀ c ∈ Utf8.decode tail, c.toNat < 0x80 := fun c hc =>
    (ascii_escapeSequences _ hmem).toNat_lt (by rwa [String.toList_ofList])
  have hbound := bound_of_sequence _ hmem
  rw [String.toList_ofList] at hbound
  rwa [← Utf8.eq_codes_of_ascii hascii] at hbound

/-- The shapes of a chunk: one ASCII byte, what begins above ASCII, or the escape character and
more. -/
theorem Chunk.cases {bytes : List UInt8} (h : Chunk bytes) :
    (∃ n < 0x80, n ≠ 0x1B ∧ bytes = [UInt8.ofNat n])
      ∨ (∃ lead tail, 0x80 ≤ lead.toNat ∧ bytes = lead :: tail)
      ∨ ∃ tail, bytes = 0x1B :: tail := by
  obtain _ | ⟨lead, tail⟩ := bytes
  · exact h.elim
  have hlength : tail.length < frameLength lead := h
  rcases Nat.lt_or_ge lead.toNat 0x80 with hlow | hhigh
  · by_cases hescape : lead.toNat = 0x1B
    · exact .inr (.inr ⟨tail, by rw [← UInt8.ofNat_toNat (x := lead), hescape]; rfl⟩)
    · have hone : frameLength lead = 1 := by
        unfold frameLength announcedLength
        rw [if_neg (show lead.toNat ≠ escape.toNat from hescape)]
        split_ifs <;> omega
      have hnil : tail = [] := List.length_eq_zero_iff.1 (by omega)
      exact .inl ⟨lead.toNat, hlow, hescape, by rw [hnil, UInt8.ofNat_toNat]⟩
  · exact .inr (.inl ⟨lead, tail, hhigh, rfl⟩)

/-- A chunk that is read as a key that acts is an encoding of it. -/
theorem bound_of_chunk {bytes : List UInt8} (h : Chunk bytes)
    (hacts : Action.ofKey (keyOf bytes) ≠ .none) : (bytes, keyOf bytes) ∈ boundEncodings := by
  obtain ⟨n, hn, hescape, rfl⟩ | ⟨lead, tail, hlead, rfl⟩ | ⟨tail, rfl⟩ := h.cases
  · exact bound_of_ascii n hn hacts
  · obtain ⟨c, cs, htext, hc⟩ := keyOf_above_ascii hlead tail
    rw [htext] at hacts
    exact absurd (ofKey_of_head hc cs) hacts
  · rw [keyOf_escape] at hacts ⊢
    rcases hlookup : escapeSequences.lookup (String.ofList (Utf8.decode tail)) with _ | name
    · rw [hlookup] at hacts
      exact absurd (by decide) hacts
    · exact bound_of_lookup hlookup

/-- Only a chunk that begins with the escape character is read as the name of this character, and
just if it is no bound encoding. -/
theorem keyOf_eq_escape_iff {bytes : List UInt8} (h : Chunk bytes) :
    keyOf bytes = "escape"
      ↔ bytes.head? = some 0x1B ∧ bytes ∉ boundEncodings.map Prod.fst := by
  constructor
  · intro hkey
    constructor
    · obtain ⟨n, hn, hescape, rfl⟩ | ⟨lead, tail, hlead, rfl⟩ | ⟨tail, rfl⟩ := h.cases
      · exact absurd (escape_of_ascii n hn hkey) hescape
      · obtain ⟨c, cs, htext, hc⟩ := keyOf_above_ascii hlead tail
        have hhead : c = 'e' := by
          have h := congrArg String.toList (htext.symm.trans hkey)
          rw [String.toList_ofList] at h
          exact (List.cons.inj h).1
        rw [hhead] at hc
        exact absurd hc (by decide)
      · rfl
    · intro hmem
      obtain ⟨e, he, rfl⟩ := List.mem_map.1 hmem
      apply ofKey_bound e he
      rw [← keyOf_bound e he, hkey]
      rfl
  · rintro ⟨hhead, hmem⟩
    obtain ⟨tail, rfl⟩ := List.head?_eq_some_iff.1 hhead
    rw [keyOf_escape]
    rcases hlookup : escapeSequences.lookup (String.ofList (Utf8.decode tail)) with _ | name
    · rfl
    · exact absurd (List.mem_map.2 ⟨_, bound_of_lookup hlookup, rfl⟩) hmem

end Chunks

namespace Input

section Pressed

theorem takeReady_append : ∀ (count : Nat) (got : Portion) (i : Input),
    ∃ tail, tail.length ≤ count ∧ (takeReady count got i).1.bytes = got.bytes ++ tail
      ∧ tail ++ (takeReady count got i).2.bytes = i.bytes
  | 0, got, i => ⟨[], by simp [takeReady]⟩
  | count + 1, got, i => by
    have hall := bytes_arrive i
    rcases ha : i.arrive with ⟨_ | ⟨b, waiting⟩, coming⟩ <;> rw [ha] at hall
    · exact ⟨[], by simp [takeReady, ha, hall]⟩
    · obtain ⟨tail, hlength, hbytes, hrest⟩ :=
        takeReady_append count { got with bytes := got.bytes ++ [b] } ⟨waiting, coming⟩
      refine ⟨b :: tail, by simpa using hlength, ?_, ?_⟩
      · simp only [takeReady, ha, hbytes, List.append_assoc, List.singleton_append]
      · simp only [takeReady, ha, List.cons_append, hrest]
        exact hall

/-- A key is a chunk from the front of the input, and where there is none the end of it. -/
theorem readKey_cases (i : Input) :
    (i.bytes = [] ∧ i.readKey.1 = { key := eof } ∧ i.readKey.2.bytes = [])
      ∨ Chunk i.readKey.1.taken ∧ i.readKey.1.key = keyOf i.readKey.1.taken
        ∧ i.readKey.1.taken ++ i.readKey.2.bytes = i.bytes := by
  obtain ⟨j, hr, hnil, hj⟩ | ⟨lead, j, hr, hcons⟩ := i.receive_one_cases
  · refine .inl ⟨hnil, by simp only [readKey, hr], ?_⟩
    simp only [readKey, hr]
    exact hj
  · right
    simp only [readKey, hr, hcons]
    by_cases hlead : lead.toNat = escape.toNat
    · obtain ⟨tail, hlength, hbytes, hrest⟩ := takeReady_append 2 ⟨[lead], false⟩ j
      simp only [hlead, if_true, hbytes, List.singleton_append]
      refine ⟨?_, rfl, by rw [List.cons_append, hrest]⟩
      rw [Chunk, frameLength, if_pos hlead]
      omega
    · obtain ⟨hbytes, hrest, -⟩ := complete_spec (announcedLength lead.toNat) ⟨[lead], false⟩ j
      simp only [hlead, if_false, hbytes, hrest, List.singleton_append]
      refine ⟨?_, rfl, by rw [List.cons_append, List.length_singleton, List.take_append_drop]⟩
      have hpos : 0 < announcedLength lead.toNat := by
        unfold announcedLength
        split_ifs <;> omega
      rw [Chunk, frameLength, if_neg hlead, List.length_take, List.length_singleton]
      omega

theorem take_of_bytes_eq_nil : ∀ (n : Nat) {i : Input}, i.bytes = [] →
    (i.take n).1 = List.replicate n { key := eof }
  | 0, _, _ => rfl
  | n + 1, i, h => by
    obtain ⟨-, hkey, hrest⟩ | ⟨hchunk, -, hsplit⟩ := i.readKey_cases
    · simp only [take, hkey, take_of_bytes_eq_nil n hrest, List.replicate_succ]
    · rw [h] at hsplit
      rw [(List.append_eq_nil_iff.1 hsplit).1] at hchunk
      exact hchunk.elim

/-- The keys of an input: they split its bytes into chunks, and after them there is only its end. -/
structure Pressed (i : Input) (pressed : List Stroke) : Prop where
  split : (pressed.map (·.taken)).flatten = i.bytes
  read : ∀ n, (i.take n).1
    = pressed.take n ++ List.replicate (n - pressed.length) { key := eof }
  chunks : ∀ stroke ∈ pressed, Chunk stroke.taken ∧ stroke.key = keyOf stroke.taken

theorem pressed_spec (i : Input) : ∃ pressed, Pressed i pressed := by
  induction hn : i.bytes.length using Nat.strongRecOn generalizing i with
  | ind length ih =>
    obtain ⟨hnil, -, -⟩ | ⟨hchunk, hkey, hsplit⟩ := i.readKey_cases
    · exact ⟨[], hnil.symm, fun n => by simp [take_of_bytes_eq_nil n hnil], by simp⟩
    · have hless : i.readKey.2.bytes.length < length := by
        have hlength := congrArg List.length hsplit
        rw [List.length_append] at hlength
        have := hchunk.length_pos
        omega
      obtain ⟨pressed, h⟩ := ih _ hless i.readKey.2 rfl
      refine ⟨i.readKey.1 :: pressed, ?_, ?_, List.forall_mem_cons.2 ⟨⟨hchunk, hkey⟩, h.chunks⟩⟩
      · rw [List.map_cons, List.flatten_cons, h.split, hsplit]
      · rintro (_ | n)
        · simp [take]
        · simp [take, h.read n]

end Pressed

end Input

/-- Whatever bytes an input has, its keys take all of them, from one to four each, and then there
is only its end. A key acts just if its bytes are a bound encoding, and it has the name of a bound
key just if they are an encoding of that name. -/
theorem only_bound_encodings_act (i : Input) : ∃ pressed : List Stroke,
    (pressed.map (·.taken)).flatten = i.bytes
      ∧ (∀ n, (i.take n).1
          = pressed.take n ++ List.replicate (n - pressed.length) { key := eof })
      ∧ ∀ stroke ∈ pressed, 1 ≤ stroke.taken.length ∧ stroke.taken.length ≤ 4
        ∧ (Action.ofKey stroke.key ≠ .none ↔ stroke.taken ∈ boundEncodings.map Prod.fst)
        ∧ (∀ name, Action.ofKey name ≠ .none →
            (stroke.key = name ↔ (stroke.taken, name) ∈ boundEncodings))
        ∧ (stroke.key = "escape" ↔
            stroke.taken.head? = some 0x1B ∧ stroke.taken ∉ boundEncodings.map Prod.fst) := by
  obtain ⟨pressed, h⟩ := i.pressed_spec
  refine ⟨pressed, h.split, h.read, fun stroke hmem => ?_⟩
  obtain ⟨hchunk, hkey⟩ := h.chunks stroke hmem
  rw [hkey]
  refine ⟨hchunk.length_pos, hchunk.length_le, ⟨fun hacts => ?_, fun hbound => ?_⟩,
    fun name hacts => ⟨?_, fun hbound => keyOf_bound _ hbound⟩, keyOf_eq_escape_iff hchunk⟩
  · exact List.mem_map.2 ⟨_, bound_of_chunk hchunk hacts, rfl⟩
  · obtain ⟨e, he, hbytes⟩ := List.mem_map.1 hbound
    rw [← hbytes, keyOf_bound e he]
    exact ofKey_bound e he
  · rintro rfl
    exact bound_of_chunk hchunk hacts

/-- An overlong and a truncated character and a truncated sequence, with keys between them. -/
example :
    ((({} : Input).feed [0x71, 0xC1, 0xB3, 0x1B, 0x5B, 0x5A, 0xE2, 0x73, 0x6B, 0x6A, 0x1B,
        0x5B]).take 6).1.map (fun stroke => (stroke.taken, Action.ofKey stroke.key))
      = [([0x71], .quit), ([0xC1, 0xB3], .none), ([0x1B, 0x5B, 0x5A], .focusPrevious),
         ([0xE2, 0x73, 0x6B], .none), ([0x6A], .scrollDown), ([0x1B, 0x5B], .none)] := by
  decide +kernel

end Stepboard.Key
