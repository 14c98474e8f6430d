import Mathlib.Algebra.Ring.Nat
import Stepboard.Text.Blank
import Stepboard.Text.Numeral
/-!
# Numerals are read back

Digits of a number in a base up to sixteen, as many as it needs (`read_digits`) or a fixed count
that it fits into (`read_fixed`), read back as the number. No digit is white space or a sign.
-/

namespace Stepboard.Numeral

theorem hexValue?_digitChar {d : Nat} (h : d < 16) : hexValue? (Nat.digitChar d) = some d := by
  have all : ∀ d ∈ List.range 16, hexValue? (Nat.digitChar d) = some d := by decide
  exact all d (List.mem_range.mpr h)

theorem digitChar_spec {d : Nat} (h : d < 16) :
    Text.isBlank (Nat.digitChar d) = false ∧ Nat.digitChar d ≠ '-' := by
  have all : ∀ d ∈ List.range 16,
      Text.isBlank (Nat.digitChar d) = false ∧ Nat.digitChar d ≠ '-' := by decide
  exact all d (List.mem_range.mpr h)

section Read

variable {base : Nat}

theorem readFrom_append (acc : Nat) (cs ds : List Char) :
    readFrom base acc (cs ++ ds) = (readFrom base acc cs).bind fun n => readFrom base n ds := by
  induction cs generalizing acc with
  | nil => rfl
  | cons c cs ih =>
    simp only [List.cons_append, readFrom]
    split
    · split
      · exact ih _
      · rfl
    · rfl

theorem readFrom_digitChar {d : Nat} (acc : Nat) (hd : d < base) (hb : base ≤ 16) :
    readFrom base acc [Nat.digitChar d] = some (base * acc + d) := by
  simp only [readFrom, hexValue?_digitChar (by omega : d < 16), hd, if_true]

/-- Reading digits of a fixed count gives back what they keep of the number. -/
theorem readFrom_fixed (h0 : 0 < base) (hb : base ≤ 16) (acc width n : Nat) :
    readFrom base acc (fixed base width n) = some (base ^ width * acc + n % base ^ width) := by
  induction width generalizing n with
  | zero => simp [fixed, readFrom, Nat.mod_one]
  | succ width ih =>
    have hm : n % base ^ (width + 1) = base * (n / base % base ^ width) + n % base := by
      rw [pow_succ', Nat.mod_mul]
      omega
    simp only [fixed, readFrom_append, ih, Option.bind_some,
      readFrom_digitChar _ (Nat.mod_lt n h0) hb, hm]
    congr 1
    rw [pow_succ', Nat.mul_add, Nat.mul_assoc]
    omega

theorem read_fixed (h0 : 0 < base) (hb : base ≤ 16) {width n : Nat} (hn : n < base ^ width) :
    read base (fixed base width n) = some n := by
  rw [read, readFrom_fixed h0 hb, Nat.mul_zero, Nat.zero_add, Nat.mod_eq_of_lt hn]

theorem read_digits (h2 : 2 ≤ base) (hb : base ≤ 16) (n : Nat) :
    read base (digits base n) = some n := by
  induction n using Nat.strongRecOn with
  | ind n ih =>
    unfold digits
    split_ifs with h
    · rw [read, readFrom_digitChar 0 (by omega) hb, Nat.mul_zero, Nat.zero_add]
    · have hn : n / base < n := Nat.div_lt_self (by omega) (by omega)
      have hlow : n % base < base := Nat.mod_lt n (by omega)
      have hread := ih (n / base) hn
      rw [read] at hread ⊢
      rw [readFrom_append, hread, Option.bind_some, readFrom_digitChar _ hlow hb,
        Nat.div_add_mod]

end Read

section Digits

variable {base : Nat}

theorem mem_fixed (h0 : 0 < base) (hb : base ≤ 16) {width n : Nat} {c : Char}
    (hc : c ∈ fixed base width n) : ∃ d, d < 16 ∧ c = Nat.digitChar d := by
  induction width generalizing n with
  | zero => simp [fixed] at hc
  | succ width ih =>
    simp only [fixed, List.mem_append, List.mem_singleton] at hc
    rcases hc with hc | rfl
    · exact ih hc
    · have hd := Nat.mod_lt n h0
      exact ⟨n % base, by omega, rfl⟩

theorem mem_digits (h2 : 2 ≤ base) (hb : base ≤ 16) {n : Nat} {c : Char}
    (hc : c ∈ digits base n) : ∃ d, d < 16 ∧ c = Nat.digitChar d := by
  induction n using Nat.strongRecOn with
  | ind n ih =>
    unfold digits at hc
    split_ifs at hc with h
    · rw [List.mem_singleton] at hc
      exact ⟨n, by omega, hc⟩
    · simp only [List.mem_append, List.mem_singleton] at hc
      rcases hc with hc | rfl
      · exact ih (n / base) (Nat.div_lt_self (by omega) (by omega)) hc
      · have hd : n % base < base := Nat.mod_lt n (by omega)
        exact ⟨n % base, by omega, rfl⟩

/-- A number has no more digits than the power of the base above it tells. -/
theorem length_digits_le (h2 : 2 ≤ base) {width n : Nat} (hn : n < base ^ (width + 1)) :
    (digits base n).length ≤ width + 1 := by
  induction width generalizing n with
  | zero =>
    unfold digits
    rw [dif_pos (.inl (by simpa using hn))]
    rfl
  | succ width ih =>
    unfold digits
    split_ifs with h
    · simp
    · have hn' : n / base < base ^ (width + 1) := by
        rw [Nat.div_lt_iff_lt_mul (by omega), ← pow_succ]
        exact hn
      have hlen := ih hn'
      rw [List.length_append, List.length_singleton]
      omega

/-- A number has more digits than the power of the base below it tells. -/
theorem lt_length_digits (h2 : 2 ≤ base) {width n : Nat} (hn : base ^ width ≤ n) :
    width < (digits base n).length := by
  induction width generalizing n with
  | zero =>
    unfold digits
    split_ifs <;> simp
  | succ width ih =>
    have hbase : base ≤ n := by
      rw [pow_succ] at hn
      have hpos : 0 < base ^ width := Nat.pow_pos (by omega)
      exact Nat.le_trans (Nat.le_mul_of_pos_left base hpos) hn
    unfold digits
    rw [dif_neg (by omega), List.length_append, List.length_singleton]
    have hn' : base ^ width ≤ n / base := by
      rwa [Nat.le_div_iff_mul_le (by omega), ← pow_succ]
    exact Nat.succ_lt_succ (ih hn')

end Digits

end Stepboard.Numeral
