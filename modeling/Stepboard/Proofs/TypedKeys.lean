import Stepboard.Key.Reader
import Stepboard.Proofs.Characters
/-!
# Typed keys are read

A reader takes the same keys from bytes that come in chunks as from bytes that are all there, as
long as no call part way through a key finds none waiting (`readKey_eq_read`): the calls of one key
split its bytes in some way and leave the rest. The bytes of a key are just those that its first
byte calls for (`Framed`), so that what was typed is read key by key (`readAll_framed`).
-/

namespace Stepboard.Key

namespace Input

/-- All bytes of an input that were not read yet. -/
def bytes (i : Input) : List UInt8 :=
  i.waiting ++ i.coming.flatten

theorem bytes_arrive (i : Input) : i.arrive.bytes = i.bytes := by
  obtain ⟨waiting, coming⟩ := i
  cases coming with
  | nil => rfl
  | cons chunk chunks => simp [arrive, bytes]

theorem coming_arrive {i : Input} (h : i.coming = []) : i.arrive = i := by
  unfold arrive
  rw [h]

/-- Waiting loses no byte, and leaves none waiting only where none is to come. -/
theorem waitFrom_spec : ∀ (coming : List (List UInt8)) (waiting : List UInt8),
    (waitFrom waiting coming).bytes = waiting ++ coming.flatten
      ∧ ((waitFrom waiting coming).waiting = [] → (waitFrom waiting coming).coming = [])
  | [], waiting => by cases waiting <;> simp [waitFrom, bytes]
  | chunk :: chunks, [] => by simpa [waitFrom] using waitFrom_spec chunks chunk
  | chunk :: chunks, b :: waiting => by simp [waitFrom, bytes]

section Receive

variable (i : Input) (count : Nat)

theorem receive_append : (i.receive count).1 ++ (i.receive count).2.bytes = i.bytes := by
  have h := (waitFrom_spec i.arrive.coming i.arrive.waiting).1
  rw [← bytes_arrive i, show i.arrive.bytes = i.arrive.waiting ++ i.arrive.coming.flatten from rfl,
    ← h]
  simp [receive, bytes, ← List.append_assoc]

theorem length_receive_le : (i.receive count).1.length ≤ count := by
  unfold receive
  exact List.length_take_le _ _

variable {i count}

theorem bytes_of_receive_eq_nil (hcount : 0 < count) (h : (i.receive count).1 = []) :
    i.bytes = [] := by
  obtain ⟨hbytes, hended⟩ := waitFrom_spec i.arrive.coming i.arrive.waiting
  have hwaiting : (waitFrom i.arrive.waiting i.arrive.coming).waiting = [] := by
    rcases List.take_eq_nil_iff.1 h with h | h
    · omega
    · exact h
  have hall : i.bytes = (waitFrom i.arrive.waiting i.arrive.coming).bytes :=
    (bytes_arrive i).symm.trans hbytes.symm
  rw [hall, bytes, hwaiting, hended hwaiting]
  rfl

theorem coming_receive (h : i.coming = []) : (i.receive count).2.coming = [] := by
  obtain ⟨waiting, coming⟩ := i
  cases h
  cases waiting <;> rfl

end Receive

/-- A call for one byte gives the first one, unless the input has ended. -/
theorem receive_one_cases (i : Input) :
    (∃ j, i.receive 1 = ([], j) ∧ i.bytes = [] ∧ j.bytes = [])
      ∨ ∃ lead j, i.receive 1 = ([lead], j) ∧ i.bytes = lead :: j.bytes := by
  have happend := i.receive_append 1
  have hle := i.length_receive_le 1
  rcases hr : i.receive 1 with ⟨_ | ⟨lead, more⟩, j⟩ <;> rw [hr] at happend hle
  · have hnil : i.bytes = [] := bytes_of_receive_eq_nil Nat.one_pos (congrArg Prod.fst hr)
    exact .inl ⟨j, rfl, hnil, happend.trans hnil⟩
  · have hmore : more = [] := List.length_eq_zero_iff.1 (by simpa using hle)
    exact .inr ⟨lead, j, by rw [hmore], by rw [← happend, hmore]; rfl⟩

section Key

variable {i : Input}

/-- Waiting for bytes, a call of any size comes to the same bytes in the end. -/
theorem complete_spec (length : Nat) (got : Portion) (i : Input) :
    (complete length got i).1.bytes = got.bytes ++ i.bytes.take (length - got.bytes.length)
      ∧ (complete length got i).2.bytes = i.bytes.drop (length - got.bytes.length)
      ∧ (i.coming = [] → (complete length got i).2.coming = []) := by
  fun_induction complete length got i with
  | case1 got i h => simp [Nat.sub_eq_zero_of_le h]
  | case2 got i h starved i' hr =>
    have hnil : i.bytes = [] := bytes_of_receive_eq_nil (by omega) (congrArg Prod.fst hr)
    have hrest := i.receive_append (length - got.bytes.length)
    rw [hr, hnil, List.nil_append] at hrest
    refine ⟨by simp [hnil], by simpa [hnil] using hrest, fun hc => ?_⟩
    rw [← coming_receive hc, hr]
  | case3 got i h starved b bs i' hr ih =>
    obtain ⟨hbytes, hrest, hcoming⟩ := ih
    have happend := i.receive_append (length - got.bytes.length)
    have hle := i.length_receive_le (length - got.bytes.length)
    rw [hr] at happend hle
    simp only at happend hle
    refine ⟨?_, ?_, fun hc => hcoming ?_⟩
    · rw [hbytes, ← happend, List.take_append, List.take_of_length_le hle, List.append_assoc,
        List.length_append, Nat.sub_sub]
    · rw [hrest, ← happend, List.drop_append, List.drop_eq_nil_of_le hle, List.nil_append,
        List.length_append, Nat.sub_sub]
    · rw [← coming_receive hc, hr]

/-- Unless a call finds none waiting, bytes that are taken one by one come to the same in the
end. -/
theorem takeReady_spec : ∀ (count : Nat) (got : Portion) {i : Input},
    ((takeReady count got i).1.starved = false ∨ i.coming = []) →
      (takeReady count got i).1.bytes = got.bytes ++ i.bytes.take count
        ∧ (takeReady count got i).2.bytes = i.bytes.drop count
        ∧ (i.coming = [] → (takeReady count got i).2.coming = [])
  | 0, got, i, _ => by simp [takeReady]
  | count + 1, got, i, h => by
    have hall := bytes_arrive i
    have hended := @coming_arrive i
    rcases ha : i.arrive with ⟨_ | ⟨b, waiting⟩, coming⟩ <;> rw [ha] at hall hended
    · simp only [takeReady, ha, Bool.true_eq_false, false_or] at h ⊢
      obtain rfl := hended h
      simp [bytes, show coming = [] from h]
    · simp only [takeReady, ha] at h ⊢
      obtain ⟨hbytes, hrest, hcoming⟩ := takeReady_spec count
        { got with bytes := got.bytes ++ [b] } (i := ⟨waiting, coming⟩)
        (h.imp_right fun hc => by simp [← hended hc] at hc; exact hc)
      have hcons : i.bytes = b :: (⟨waiting, coming⟩ : Input).bytes := hall.symm
      rw [hbytes, hrest, hcons, List.take_succ_cons, List.drop_succ_cons, List.append_assoc]
      exact ⟨rfl, rfl, fun hc => hcoming (by simp [← hended hc] at hc; exact hc)⟩

/-- A key that no escape character begins is read from an input as from all of its bytes, however
they come. -/
theorem readKey_eq_read_of_plain {i : Input} (h : i.bytes.head? ≠ some 0x1B) :
    i.readKey.1.key = (read i.bytes).key ∧ i.readKey.1.taken = (read i.bytes).taken
      ∧ i.readKey.2.bytes = (read i.bytes).rest ∧ (i.coming = [] → i.readKey.2.coming = []) := by
  have hended := @coming_receive i 1
  obtain ⟨j, hr, hnil, hj⟩ | ⟨lead, j, hr, hcons⟩ := i.receive_one_cases <;> rw [hr] at hended
  · unfold readKey
    simp only [hr, hnil, hj]
    exact ⟨rfl, rfl, rfl, hended⟩
  · have hlead : lead.toNat ≠ escape.toNat := by
      intro he
      rw [hcons] at h
      exact h (congrArg some (UInt8.toNat_inj.1 he))
    obtain ⟨hbytes, hrest, hcoming⟩ :=
      complete_spec (announcedLength lead.toNat) ⟨[lead], false⟩ j
    unfold readKey
    simp only [hr, hcons, read, frameLength, hlead, if_false, hbytes]
    exact ⟨rfl, rfl, hrest, fun hc => hcoming (hended hc)⟩

/-- Where no call part way through finds none waiting, or nothing more is to come, a key is read
from an input as from all of its bytes. -/
theorem readKey_eq_read {i : Input} (h : i.readKey.1.starved = false ∨ i.coming = []) :
    i.readKey.1.key = (read i.bytes).key ∧ i.readKey.1.taken = (read i.bytes).taken
      ∧ i.readKey.2.bytes = (read i.bytes).rest ∧ (i.coming = [] → i.readKey.2.coming = []) := by
  by_cases hescape : i.bytes.head? = some 0x1B
  · have hended := @coming_receive i 1
    obtain ⟨j, hr, hnil, -⟩ | ⟨lead, j, hr, hcons⟩ := i.receive_one_cases <;> rw [hr] at hended
    · rw [hnil] at hescape
      cases hescape
    · rw [hcons] at hescape
      obtain rfl : lead = 0x1B := Option.some.inj hescape
      have hlead : (0x1B : UInt8).toNat = escape.toNat := rfl
      unfold readKey at h ⊢
      simp only [hr, hcons, read, frameLength, hlead, if_true] at h ⊢
      obtain ⟨hbytes, hrest, hcoming⟩ := takeReady_spec 2 ⟨[0x1B], false⟩ (h.imp_right hended)
      rw [hbytes]
      exact ⟨rfl, rfl, hrest, fun hc => hcoming (hended hc)⟩
  · exact readKey_eq_read_of_plain hescape

end Key

/-- The keys of an input, with their bytes, and the end of the input for ever after. -/
def keysRead (n : Nat) (bytes : List UInt8) : List (String × List UInt8) :=
  ((readAll bytes).map fun p => (p.key, p.taken)).take n
    ++ List.replicate (n - (readAll bytes).length) (eof, [])

theorem keysRead_nil (n : Nat) : keysRead n [] = List.replicate n (eof, []) := by
  simp [keysRead, readAll]

theorem keysRead_succ (n : Nat) (bytes : List UInt8) :
    keysRead (n + 1) bytes
      = ((read bytes).key, (read bytes).taken) :: keysRead n (read bytes).rest := by
  cases bytes with
  | nil =>
    rw [keysRead_nil, show (read []).rest = [] from rfl, keysRead_nil]
    rfl
  | cons lead bytes =>
    simp only [keysRead]
    rw [readAll]
    simp

theorem take_eq_keysRead : ∀ (n : Nat) {i : Input},
    ((∀ stroke ∈ (i.take n).1, stroke.starved = false) ∨ i.coming = []) →
      (i.take n).1.map (fun stroke => (stroke.key, stroke.taken)) = keysRead n i.bytes
  | 0, i, _ => by simp [take, keysRead]
  | n + 1, i, h => by
    simp only [take, List.mem_cons, forall_eq_or_imp] at h ⊢
    obtain ⟨hkey, htaken, hrest, hcoming⟩ := readKey_eq_read (i := i) (h.imp_left fun h => h.1)
    have ih := take_eq_keysRead n (i := i.readKey.2) (h.imp (fun h => h.2) hcoming)
    rw [List.map_cons, ih, keysRead_succ, hkey, htaken, hrest]

end Input

/-- A key as it can be typed: a character that begins no sequence, or a sequence that names a
key. -/
inductive Typed where
  | char (c : Char) (h : c ≠ escape)
  | sequence (s : String × String) (h : s ∈ escapeSequences)

namespace Typed

/-- The bytes that a key is typed by. -/
def bytes : Typed → List UInt8
  | char c _ => String.utf8EncodeChar c
  | sequence s _ => Utf8.encode (escape :: s.1.toList)

/-- The name of a typed key: its own name, or the character itself. -/
def key : Typed → String
  | char c _ => (controlKeys.lookup (String.ofList [c])).getD (String.ofList [c])
  | sequence s _ => s.2

end Typed

/-- Bytes that are just as many as the first of them calls for. -/
def Framed (bytes : List UInt8) : Prop :=
  bytes.head?.map frameLength = some bytes.length

instance (bytes : List UInt8) : Decidable (Framed bytes) :=
  inferInstanceAs (Decidable (_ = _))

theorem read_of_framed {bytes : List UInt8} (h : Framed bytes) (rest : List UInt8) :
    read (bytes ++ rest) = ⟨decode (Utf8.decodeString bytes), bytes, rest⟩ := by
  cases bytes with
  | nil => cases h
  | cons lead more =>
    have hlength : frameLength lead - 1 = more.length := by
      rw [Option.some.inj h]
      rfl
    simp [read, hlength]

theorem framed_encodeChar {c : Char} (h : c ≠ escape) : Framed (String.utf8EncodeChar c) := by
  have hescape : c.toNat ≠ escape.toNat := fun he => h (Char.toNat_inj.1 he)
  have hvalid : c.toNat < 0xD800 ∨ 0xDFFF < c.toNat ∧ c.toNat < 0x110000 := c.valid
  have hnumber : escape.toNat = 0x1B := rfl
  rcases Utf8.encodeChar_cases c with ⟨hh, he⟩ | ⟨hl, hh, he⟩ | ⟨hl, hh, he⟩ | ⟨hl, he⟩ <;>
  · rw [he]
    refine congrArg some ?_
    unfold frameLength announcedLength
    rw [Utf8.toNat_ofNat (by omega), hnumber]
    dsimp only [List.length]
    split_ifs <;> omega

namespace Typed

theorem framed_bytes : ∀ t : Typed, Framed t.bytes
  | char c h => framed_encodeChar h
  | sequence s h => by
    have hall : ∀ s ∈ escapeSequences, Framed (Utf8.encode (escape :: s.1.toList)) := by decide
    exact hall s h

theorem decode_bytes : ∀ t : Typed, decode (Utf8.decodeString t.bytes) = t.key
  | char c h => by
    have hdecode : Utf8.decode (String.utf8EncodeChar c) = [c] := by
      have h := Utf8.decode_encode [c]
      rwa [Utf8.encode, List.flatMap_singleton] at h
    rw [bytes, Utf8.decodeString, hdecode, decode, key]
    rcases controlKeys.lookup (String.ofList [c]) with _ | name
    · simp [h]
    · rfl
  | sequence s h => by
    rw [bytes, Utf8.decodeString, Utf8.decode_encode, key]
    revert s
    decide

end Typed

theorem readAll_of_ne_nil {bytes : List UInt8} (h : bytes ≠ []) :
    readAll bytes = read bytes :: readAll (read bytes).rest := by
  cases bytes with
  | nil => exact absurd rfl h
  | cons lead bytes => rw [readAll]

/-- Frames are read one by one, each as a key. -/
theorem readAll_framed : ∀ {frames : List (List UInt8)}, (∀ frame ∈ frames, Framed frame) →
    ∀ rest, (readAll (frames.flatten ++ rest)).map (fun p => (p.key, p.taken))
      = frames.map (fun frame => (decode (Utf8.decodeString frame), frame))
        ++ (readAll rest).map fun p => (p.key, p.taken)
  | [], _, rest => rfl
  | frame :: frames, h, rest => by
    have hframed := h frame List.mem_cons_self
    have hne : frame ≠ [] := by
      rintro rfl
      cases hframed
    rw [List.flatten_cons, List.append_assoc, readAll_of_ne_nil (by simp [hne]),
      read_of_framed hframed, List.map_cons,
      readAll_framed (fun f hf => h f (List.mem_cons_of_mem _ hf)) rest]
    rfl

theorem readAll_typed (typed : List Typed) :
    (readAll (typed.flatMap Typed.bytes)).map (fun p => (p.key, p.taken))
      = typed.map fun t => (t.key, t.bytes) := by
  have hframed : ∀ frame ∈ typed.map Typed.bytes, Framed frame := by
    intro frame h
    obtain ⟨t, -, rfl⟩ := List.mem_map.1 h
    exact t.framed_bytes
  have hread := readAll_framed hframed []
  rw [List.append_nil, ← List.flatMap_def] at hread
  rw [hread, readAll, List.map_nil, List.append_nil, List.map_map]
  exact List.map_congr_left fun t _ => congrArg (·, t.bytes) t.decode_bytes

/-- However the bytes of typed keys come, as long as no call part way through a key finds none
waiting, each key is read in its turn, by its own name and bytes; what is read after the last is the
end of the input. -/
theorem typed_keys_are_read (typed : List Typed) (i : Input)
    (hbytes : i.bytes = typed.flatMap Typed.bytes) (n : Nat)
    (hfed : ∀ stroke ∈ (i.take n).1, stroke.starved = false) :
    (i.take n).1.map (fun stroke => (stroke.key, stroke.taken))
      = (typed.map fun t => (t.key, t.bytes)).take n
        ++ List.replicate (n - typed.length) (eof, []) := by
  have hlength := congrArg List.length (readAll_typed typed)
  rw [List.length_map, List.length_map] at hlength
  rw [Input.take_eq_keysRead n (.inl hfed), hbytes, Input.keysRead, readAll_typed, hlength]

/-- The bytes of four keys, in chunks that end within a character and within a sequence and come
while these are read. -/
def chunked : Input where
  waiting := [0xC3]
  coming := [[], [0xA9, 0x1B], [0x5B], [0x41, 0x73], [], [0x09]]

theorem chunked_keys_are_read :
    (∀ stroke ∈ (chunked.take 6).1, stroke.starved = false)
      ∧ (chunked.take 6).1.map (·.key) = ["é", "up", "s", "tab", "eof", "eof"] := by
  have hfed : ∀ stroke ∈ (chunked.take 6).1, stroke.starved = false := by decide +kernel
  have h := typed_keys_are_read
    [.char 'é' (by decide), .sequence ("[A", "up") (by decide), .char 's' (by decide),
      .char '\t' (by decide)] chunked (by decide) 6 hfed
  refine ⟨hfed, ?_⟩
  have hkeys := congrArg (List.map Prod.fst) h
  rw [List.map_map] at hkeys
  exact hkeys.trans (by decide)

end Stepboard.Key
