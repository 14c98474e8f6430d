import Mathlib.Tactic.SplitIfs
import Stepboard.Text.Utf8
/-!
# The bytes of characters

The bytes of a character are decoded to that character, whatever comes after them
(`pieces_encodeChar`): the first byte begins a character of the right length, in whose range the
second byte lies. The other way round, a text of ASCII characters can only have been decoded from
its own codes (`eq_codes_of_ascii`), since a byte above them never begins a character of ASCII.
-/

namespace Stepboard.Utf8

theorem toNat_ofNat {n : Nat} (h : n < 0x100) : (UInt8.ofNat n).toNat = n := by
  rw [UInt8.toNat_ofNat']
  exact Nat.mod_eq_of_lt h

theorem toNat_charOfNat {n : Nat} (h : n.isValidChar) : (Char.ofNat n).toNat = n := by
  rw [Char.ofNat, dif_pos h]
  rfl

theorem replacement_above_ascii : 0x80 ≤ replacement.toNat := by decide

section Encoded

theorem piecesFrom_done {b : UInt8} {piece : Piece} (h : start b = .inl piece)
    (bytes : List UInt8) : piecesFrom none (b :: bytes) = piece :: piecesFrom none bytes := by
  simp only [piecesFrom, h]

theorem piecesFrom_begun {b : UInt8} {p : Partial} (h : start b = .inr p) (bytes : List UInt8) :
    piecesFrom none (b :: bytes) = piecesFrom (some p) bytes := by
  simp only [piecesFrom, h]

theorem piecesFrom_last {p : Partial} {b : UInt8} (ha : p.accepts b = true) (hn : p.need ≤ 1)
    (bytes : List UInt8) : piecesFrom (some p) (b :: bytes)
      = .scalar (Char.ofNat (64 * p.value + (b.toNat - 0x80))) :: piecesFrom none bytes := by
  simp only [piecesFrom, ha, if_true, Partial.push, hn]

theorem piecesFrom_more {p : Partial} {b : UInt8} (ha : p.accepts b = true) (hn : ¬ p.need ≤ 1)
    (bytes : List UInt8) : piecesFrom (some p) (b :: bytes) = piecesFrom (some
      { bytes := p.bytes ++ [b], value := 64 * p.value + (b.toNat - 0x80), need := p.need - 1 })
      bytes := by
  simp only [piecesFrom, ha, if_true, Partial.push, hn, if_false]

/-- A byte of six bits of a number, as every byte of a character but the first is. -/
def tailByte (n : Nat) : UInt8 :=
  UInt8.ofNat (n % 64 + 0x80)

theorem toNat_tailByte (n : Nat) : (tailByte n).toNat = n % 64 + 0x80 :=
  toNat_ofNat (by omega)

theorem accepts_tailByte {p : Partial} (hl : p.low = 0x80) (hh : p.high = 0xBF) (n : Nat) :
    p.accepts (tailByte n) = true := by
  simp only [Partial.accepts, toNat_tailByte, hl, hh, Bool.and_eq_true, decide_eq_true_eq]
  omega

section Start

/-- The ranges in which a first byte means the same. -/
theorem first_byte (b : UInt8) : b.toNat < 0x80
    ∨ (0x80 ≤ b.toNat ∧ b.toNat < 0xC2 ∨ 0xF5 ≤ b.toNat) ∨ (0xC2 ≤ b.toNat ∧ b.toNat < 0xE0)
    ∨ (0xE0 ≤ b.toNat ∧ b.toNat < 0xF0) ∨ (0xF0 ≤ b.toNat ∧ b.toNat < 0xF5) := by
  omega

variable {b : UInt8}

theorem start_one (h : b.toNat < 0x80) : start b = .inl (.scalar (Char.ofNat b.toNat)) := by
  unfold start
  exact if_pos h

theorem start_bad (h : 0x80 ≤ b.toNat ∧ b.toNat < 0xC2 ∨ 0xF5 ≤ b.toNat) :
    start b = .inl (.broken [b] .badStart) := by
  unfold start
  dsimp only
  rw [if_neg (by omega)]
  rcases h with h | h
  · rw [if_pos h.2]
  · rw [if_neg (by omega), if_neg (by omega), if_neg (by omega), if_neg (by omega),
      if_neg (by omega), if_neg (by omega), if_neg (by omega), if_neg (by omega)]

theorem start_two (hl : 0xC2 ≤ b.toNat) (hh : b.toNat < 0xE0) :
    start b = .inr { bytes := [b], value := b.toNat - 0xC0, need := 1 } := by
  unfold start
  dsimp only
  rw [if_neg (by omega), if_neg (by omega), if_pos hh]

theorem start_three (hl : 0xE0 ≤ b.toNat) (hh : b.toNat < 0xF0) :
    start b = .inr
      { bytes := [b], value := b.toNat - 0xE0, need := 2
        low := if b.toNat = 0xE0 then 0xA0 else 0x80
        high := if b.toNat = 0xED then 0x9F else 0xBF } := by
  unfold start
  dsimp only
  rw [if_neg (by omega), if_neg (by omega), if_neg (by omega)]
  by_cases hfirst : b.toNat = 0xE0
  · rw [hfirst]
    rfl
  · by_cases hlast : b.toNat = 0xED
    · rw [hlast]
      rfl
    · rw [if_neg hfirst, if_neg hlast, if_pos hh, if_neg hfirst, if_neg hlast]

theorem start_four (hl : 0xF0 ≤ b.toNat) (hh : b.toNat < 0xF5) :
    start b = .inr
      { bytes := [b], value := b.toNat - 0xF0, need := 3
        low := if b.toNat = 0xF0 then 0x90 else 0x80
        high := if b.toNat = 0xF4 then 0x8F else 0xBF } := by
  unfold start
  dsimp only
  rw [if_neg (by omega), if_neg (by omega), if_neg (by omega), if_neg (by omega),
    if_neg (by omega), if_neg (by omega)]
  by_cases hfirst : b.toNat = 0xF0
  · rw [hfirst]
    rfl
  · by_cases hlast : b.toNat = 0xF4
    · rw [hlast]
      rfl
    · rw [if_neg hfirst, if_pos (by omega), if_neg hfirst, if_neg hlast]

end Start

/-- A first byte, and the value it gives the character and how many bytes are to come, the next of
which is of the low six bits of `n`. -/
def Begins (b : UInt8) (value need n : Nat) : Prop :=
  ∃ p, start b = .inr p ∧ p.value = value ∧ p.need = need ∧ p.accepts (tailByte n) = true

section Begins

variable {n : Nat}

theorem begins_two (hl : 0x80 ≤ n) (hh : n < 0x800) :
    Begins (UInt8.ofNat (n / 64 % 32 + 0xC0)) (n / 64) 1 n := by
  have hb : (UInt8.ofNat (n / 64 % 32 + 0xC0)).toNat = n / 64 + 0xC0 := by
    rw [toNat_ofNat] <;> omega
  refine ⟨_, start_two (by omega) (by omega), ?_, rfl, accepts_tailByte rfl rfl n⟩
  dsimp only
  omega

theorem begins_three (hl : 0x800 ≤ n) (hh : n < 0x10000) (hvalid : n < 0xD800 ∨ 0xDFFF < n) :
    Begins (UInt8.ofNat (n / 4096 % 16 + 0xE0)) (n / 4096) 2 (n / 64) := by
  have hb : (UInt8.ofNat (n / 4096 % 16 + 0xE0)).toNat = n / 4096 + 0xE0 := by
    rw [toNat_ofNat] <;> omega
  refine ⟨_, start_three (by omega) (by omega), ?_, rfl, ?_⟩
  · dsimp only
    omega
  · simp only [Partial.accepts, toNat_tailByte, hb, Bool.and_eq_true, decide_eq_true_eq]
    split_ifs <;> omega

theorem begins_four (hl : 0x10000 ≤ n) (hh : n < 0x110000) :
    Begins (UInt8.ofNat (n / 262144 % 8 + 0xF0)) (n / 262144) 3 (n / 4096) := by
  have hb : (UInt8.ofNat (n / 262144 % 8 + 0xF0)).toNat = n / 262144 + 0xF0 := by
    rw [toNat_ofNat] <;> omega
  refine ⟨_, start_four (by omega) (by omega), ?_, rfl, ?_⟩
  · dsimp only
    omega
  · simp only [Partial.accepts, toNat_tailByte, hb, Bool.and_eq_true, decide_eq_true_eq]
    split_ifs <;> omega

end Begins

/-- The bytes of a character by its number. -/
theorem encodeChar_cases (c : Char) :
    (c.toNat < 0x80 ∧ String.utf8EncodeChar c = [UInt8.ofNat c.toNat])
      ∨ (0x80 ≤ c.toNat ∧ c.toNat < 0x800 ∧ String.utf8EncodeChar c
        = [UInt8.ofNat (c.toNat / 64 % 32 + 0xC0), tailByte c.toNat])
      ∨ (0x800 ≤ c.toNat ∧ c.toNat < 0x10000 ∧ String.utf8EncodeChar c
        = [UInt8.ofNat (c.toNat / 4096 % 16 + 0xE0), tailByte (c.toNat / 64), tailByte c.toNat])
      ∨ (0x10000 ≤ c.toNat ∧ String.utf8EncodeChar c
        = [UInt8.ofNat (c.toNat / 262144 % 8 + 0xF0), tailByte (c.toNat / 4096),
          tailByte (c.toNat / 64), tailByte c.toNat]) := by
  have hn : c.val.toNat = c.toNat := rfl
  unfold String.utf8EncodeChar
  dsimp only
  rw [hn]
  split_ifs with h1 h2 h3
  · exact .inl ⟨by omega, rfl⟩
  · exact .inr (.inl ⟨by omega, by omega, rfl⟩)
  · exact .inr (.inr (.inl ⟨by omega, by omega, rfl⟩))
  · exact .inr (.inr (.inr ⟨by omega, rfl⟩))

theorem value_tailByte (n : Nat) : 64 * (n / 64) + ((tailByte n).toNat - 0x80) = n := by
  rw [toNat_tailByte]
  omega

theorem pieces_encodeChar (c : Char) (bytes : List UInt8) :
    piecesFrom none (String.utf8EncodeChar c ++ bytes) = .scalar c :: piecesFrom none bytes := by
  have hc : Char.ofNat c.toNat = c := Char.ofNat_toNat c
  have hvalid : c.toNat < 0xD800 ∨ 0xDFFF < c.toNat ∧ c.toNat < 0x110000 := c.valid
  have hdiv : c.toNat / 4096 = c.toNat / 64 / 64 := by omega
  have hdiv' : c.toNat / 262144 = c.toNat / 4096 / 64 := by omega
  rcases encodeChar_cases c with ⟨h, he⟩ | ⟨hl, hh, he⟩ | ⟨hl, hh, he⟩ | ⟨hl, he⟩ <;> rw [he]
  · have hb : (UInt8.ofNat c.toNat).toNat = c.toNat := toNat_ofNat (by omega)
    rw [List.cons_append, piecesFrom_done (start_one (by omega)), List.nil_append, hb, hc]
  · obtain ⟨p, hs, hv, hn, ha⟩ := begins_two hl hh
    simp only [List.cons_append, List.nil_append]
    rw [piecesFrom_begun hs, piecesFrom_last ha (by omega), hv, value_tailByte, hc]
  · obtain ⟨p, hs, hv, hn, ha⟩ := begins_three hl hh (by omega)
    simp only [List.cons_append, List.nil_append]
    rw [piecesFrom_begun hs, piecesFrom_more ha (by omega),
      piecesFrom_last (accepts_tailByte rfl rfl _) (by simp [hn])]
    dsimp only
    rw [hv, hdiv, value_tailByte, value_tailByte, hc]
  · obtain ⟨p, hs, hv, hn, ha⟩ := begins_four hl (by omega)
    simp only [List.cons_append, List.nil_append]
    rw [piecesFrom_begun hs, piecesFrom_more ha (by omega),
      piecesFrom_more (accepts_tailByte rfl rfl _) (by simp [hn]),
      piecesFrom_last (accepts_tailByte rfl rfl _) (by simp [hn])]
    dsimp only
    rw [hv, hdiv', value_tailByte, hdiv, value_tailByte, value_tailByte, hc]

theorem decode_encode_append (cs : List Char) (bytes : List UInt8) :
    decode (encode cs ++ bytes) = cs ++ decode bytes := by
  induction cs with
  | nil => rfl
  | cons c cs ih =>
    have hpieces : pieces (encode (c :: cs) ++ bytes)
        = .scalar c :: pieces (encode cs ++ bytes) := by
      unfold pieces encode
      rw [List.flatMap_cons, List.append_assoc, pieces_encodeChar]
    unfold decode at ih ⊢
    rw [hpieces, List.map_cons, ih]
    rfl

theorem decode_encode (cs : List Char) : decode (encode cs) = cs := by
  have h := decode_encode_append cs []
  rwa [List.append_nil, show decode [] = [] from rfl, List.append_nil] at h

end Encoded

section Ascii

/-- How many numbers some tail bytes can spell. -/
def span : Nat → Nat
  | 0 => 1
  | n + 1 => 64 * span n

/-- The least number that a begun character can come to. -/
def Partial.least (p : Partial) : Nat :=
  (64 * p.value + (p.low - 0x80)) * span (p.need - 1)

/-- The number after the greatest that a begun character can come to. -/
def Partial.bound (p : Partial) : Nat :=
  (64 * p.value + (p.high - 0x80) + 1) * span (p.need - 1)

/-- A begun character that, whatever its bytes, is one above ASCII. -/
structure Partial.AboveAscii (p : Partial) : Prop where
  low : 0x80 ≤ p.low
  least : 0x80 ≤ p.least
  valid : p.bound ≤ 0xD800 ∨ 0xE000 ≤ p.least ∧ p.bound ≤ 0x110000

theorem aboveAscii_of_start {b : UInt8} {p : Partial} (h : start b = .inr p) : p.AboveAscii := by
  rcases first_byte b with h1 | hbad | ⟨hl, hh⟩ | ⟨hl, hh⟩ | ⟨hl, hh⟩
  · cases (start_one h1).symm.trans h
  · cases (start_bad hbad).symm.trans h
  · cases (start_two hl hh).symm.trans h
    constructor <;> simp only [Partial.least, Partial.bound, Nat.reduceSub, span] <;> omega
  · cases (start_three hl hh).symm.trans h
    constructor <;> simp only [Partial.least, Partial.bound, Nat.reduceSub, span] <;>
      split_ifs <;> omega
  · cases (start_four hl hh).symm.trans h
    constructor <;> simp only [Partial.least, Partial.bound, Nat.reduceSub, span] <;>
      split_ifs <;> omega

theorem shown_of_start {b : UInt8} {piece : Piece} (hb : 0x80 ≤ b.toNat)
    (h : start b = .inl piece) : 0x80 ≤ piece.shown.toNat := by
  rcases first_byte b with h1 | hbad | ⟨hl, hh⟩ | ⟨hl, hh⟩ | ⟨hl, hh⟩
  · omega
  · cases (start_bad hbad).symm.trans h
    exact replacement_above_ascii
  · cases (start_two hl hh).symm.trans h
  · cases (start_three hl hh).symm.trans h
  · cases (start_four hl hh).symm.trans h

theorem aboveAscii_of_push {p q : Partial} {b : UInt8} (hp : p.AboveAscii)
    (ha : p.accepts b = true) (h : p.push b = .inr q) : q.AboveAscii := by
  simp only [Partial.accepts, Bool.and_eq_true, decide_eq_true_eq] at ha
  obtain ⟨hlow, hleast, hvalid⟩ := hp
  unfold Partial.push at h
  dsimp only at h
  split_ifs at h with hn
  cases h
  -- What comes of the next byte lies between what can come of the least and of the greatest.
  have hspan : span (p.need - 1) = 64 * span (p.need - 2) := by
    rw [show p.need - 1 = p.need - 2 + 1 by omega, span]
  have hl := Nat.mul_le_mul_right (span (p.need - 2))
    (show (64 * p.value + (p.low - 0x80)) * 64 ≤ 64 * (64 * p.value + (b.toNat - 0x80)) by omega)
  have hb := Nat.mul_le_mul_right (span (p.need - 2))
    (show 64 * (64 * p.value + (b.toNat - 0x80)) + 64
      ≤ (64 * p.value + (p.high - 0x80) + 1) * 64 by omega)
  simp only [Partial.least, Partial.bound, hspan, ← Nat.mul_assoc] at hleast hvalid
  constructor <;> simp only [Partial.least, Partial.bound, Nat.sub_sub, Nat.reduceAdd,
    Nat.reduceSub, Nat.add_zero, Nat.add_assoc, Nat.le_refl] <;> omega

theorem shown_of_push {p : Partial} {b : UInt8} {piece : Piece} (hp : p.AboveAscii)
    (ha : p.accepts b = true) (h : p.push b = .inl piece) : 0x80 ≤ piece.shown.toNat := by
  simp only [Partial.accepts, Bool.and_eq_true, decide_eq_true_eq] at ha
  obtain ⟨hlow, hleast, hvalid⟩ := hp
  unfold Partial.push at h
  dsimp only at h
  split_ifs at h with hn
  cases h
  simp only [Partial.least, Partial.bound, Nat.sub_eq_zero_of_le hn, span, Nat.mul_one]
    at hleast hvalid
  have hvalue : (64 * p.value + (b.toNat - 0x80)).isValidChar := by
    unfold Nat.isValidChar
    omega
  rw [Piece.shown, toNat_charOfNat hvalue]
  omega

/-- The first piece that comes of a begun character shows no character of ASCII. -/
theorem shown_head_begun : ∀ (bytes : List UInt8) {p : Partial}, p.AboveAscii →
    ∃ piece rest, piecesFrom (some p) bytes = piece :: rest ∧ 0x80 ≤ piece.shown.toNat
  | [], p, _ => ⟨_, _, rfl, replacement_above_ascii⟩
  | b :: bytes, p, hp => by
    by_cases ha : p.accepts b = true
    · rcases h : p.push b with piece | q
      · exact ⟨piece, piecesFrom none bytes, by simp only [piecesFrom, ha, if_true, h],
          shown_of_push hp ha h⟩
      · obtain ⟨piece, rest, hq, hs⟩ := shown_head_begun bytes (aboveAscii_of_push hp ha h)
        exact ⟨piece, rest, by simp only [piecesFrom, ha, if_true, h, hq], hs⟩
    · rcases h : start b with piece | q
      · exact ⟨.broken p.bytes .badContinuation, piece :: piecesFrom none bytes,
          by simp [piecesFrom, ha, h], replacement_above_ascii⟩
      · exact ⟨.broken p.bytes .badContinuation, piecesFrom (some q) bytes,
          by simp [piecesFrom, ha, h], replacement_above_ascii⟩

/-- A byte above ASCII is never shown as a character of ASCII, whatever comes after it. -/
theorem decode_above_ascii {b : UInt8} (h : 0x80 ≤ b.toNat) (bytes : List UInt8) :
    ∃ c cs, decode (b :: bytes) = c :: cs ∧ 0x80 ≤ c.toNat := by
  unfold decode pieces
  rcases hs : start b with piece | p
  · exact ⟨piece.shown, _, by rw [piecesFrom_done hs, List.map_cons], shown_of_start h hs⟩
  · obtain ⟨piece, rest, hp, hpiece⟩ := shown_head_begun bytes (aboveAscii_of_start hs)
    exact ⟨piece.shown, rest.map Piece.shown, by rw [piecesFrom_begun hs, hp, List.map_cons],
      hpiece⟩

theorem decode_ascii {b : UInt8} (h : b.toNat < 0x80) (bytes : List UInt8) :
    decode (b :: bytes) = Char.ofNat b.toNat :: decode bytes := by
  unfold decode pieces
  rw [piecesFrom_done (start_one h), List.map_cons]
  rfl

/-- A text of ASCII characters was decoded from their codes. -/
theorem eq_codes_of_ascii : ∀ {bytes : List UInt8}, (∀ c ∈ decode bytes, c.toNat < 0x80) →
    bytes = (decode bytes).map fun c => UInt8.ofNat c.toNat
  | [], _ => rfl
  | b :: bytes, h => by
    by_cases hb : b.toNat < 0x80
    · rw [decode_ascii hb] at h ⊢
      have hc : (Char.ofNat b.toNat).toNat = b.toNat := toNat_charOfNat (.inl (by omega))
      rw [List.map_cons, hc, UInt8.ofNat_toNat,
        ← eq_codes_of_ascii fun c hm => h c (List.mem_cons_of_mem _ hm)]
    · obtain ⟨c, cs, hdecode, hc⟩ := decode_above_ascii (Nat.le_of_not_lt hb) bytes
      have := h c (by rw [hdecode]; exact List.mem_cons_self)
      omega

end Ascii

end Stepboard.Utf8
