/-!
# Numerals

Digits of natural numbers in a base from two to sixteen, with lower case letters: as many as the
number needs (`digits`), or a fixed count that keeps the low ones (`fixed`). Signed numerals are
padded with zeros between the sign and the digits, and the sign counts in the width.
-/

namespace Stepboard.Numeral

/-- The `width` lowest digits of a number, the highest of them first. -/
def fixed (base : Nat) : Nat → Nat → List Char
  | 0, _ => []
  | width + 1, n => fixed base width (n / base) ++ [Nat.digitChar (n % base)]

@[simp] theorem length_fixed (base width n : Nat) : (fixed base width n).length = width := by
  induction width generalizing n with
  | zero => rfl
  | succ width ih => simp [fixed, ih]

/-- The digits of a number, without leading zeros; zero has one digit. -/
def digits (base n : Nat) : List Char :=
  if _ : n < base ∨ base < 2 then [Nat.digitChar n]
  else digits base (n / base) ++ [Nat.digitChar (n % base)]
termination_by n
decreasing_by exact Nat.div_lt_self (by omega) (by omega)

/-- Pads a text on the left to a width. -/
def padLeft (width : Nat) (c : Char) (cs : List Char) : List Char :=
  List.replicate (width - cs.length) c ++ cs

/-- A signed number in a base, padded with zeros to a width that counts the sign. -/
def padded (base width : Nat) (n : Int) : List Char :=
  if n < 0 then '-' :: padLeft (width - 1) '0' (digits base n.natAbs)
  else padLeft width '0' (digits base n.natAbs)

/-- A signed number in decimal. -/
def decimal (n : Int) : String :=
  String.ofList (padded 10 0 n)

/-- Eight hexadecimal digits, as addresses are written in messages. -/
def hexWord (n : Int) : String :=
  String.ofList (padded 16 8 n)

/-- The value of a lower case hexadecimal digit. -/
def hexValue? (c : Char) : Option Nat :=
  if '0' ≤ c ∧ c ≤ '9' then some (c.toNat - '0'.toNat)
  else if 'a' ≤ c ∧ c ≤ 'f' then some (c.toNat - 'a'.toNat + 10)
  else none

/-- Reads digits in a base after those that made `acc`. -/
def readFrom (base acc : Nat) : List Char → Option Nat
  | [] => some acc
  | c :: cs =>
    match hexValue? c with
    | some d => if d < base then readFrom base (base * acc + d) cs else none
    | none => none

/-- Reads a text of digits in a base, lower case ones past nine. -/
def read (base : Nat) (cs : List Char) : Option Nat :=
  readFrom base 0 cs

/-- Reads a text of lower case hexadecimal digits. -/
def ofHex? (cs : List Char) : Option Nat :=
  read 16 cs

end Stepboard.Numeral
