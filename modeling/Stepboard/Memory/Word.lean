import Stepboard.Text.Numeral
/-!
# Words

A word is thirty-two bits; a value of any size stands for the word of its low bits. Words are
written in one of three bases, each with its own column width: decimal words are signed, the
others are not. Addresses are written as eight hexadecimal digits in brackets.
-/

namespace Stepboard.Memory

/-- Bytes in a word. -/
def wordSize : Nat := 4

/-- The number of words there are. -/
def wordLimit : Nat := 0x100000000

/-- The word of a value's low thirty-two bits. -/
def toWord (value : Int) : Nat :=
  (value % wordLimit).toNat

theorem toWord_lt (value : Int) : toWord value < wordLimit := by
  have h := Int.emod_lt_of_pos value (show (0 : Int) < wordLimit by decide)
  have h' := Int.emod_nonneg value (show (wordLimit : Int) ≠ 0 by decide)
  simp only [toWord]
  omega

/-- A word read as a two's complement number. -/
def toSigned (value : Int) : Int :=
  if toWord value < 0x80000000 then toWord value else (toWord value : Int) - wordLimit

/-- The base in which words are written. -/
inductive Base where
  | decimal
  | hexadecimal
  | binary
  deriving DecidableEq, Repr

/-- A radix in which no word can be written. -/
structure UnsupportedBase where
  radix : Int
  deriving DecidableEq, Repr

def UnsupportedBase.message (e : UnsupportedBase) : String :=
  "unsupported word base: " ++ Numeral.decimal e.radix

/-- The base of a radix: ten, sixteen, or none for binary. -/
def Base.ofRadix : Option Int → Except UnsupportedBase Base
  | none => .ok .binary
  | some radix =>
    if radix = 10 then .ok .decimal
    else if radix = 16 then .ok .hexadecimal
    else .error ⟨radix⟩

/-- The radix of a base; binary goes without. -/
def Base.radix : Base → Option Int
  | .decimal => some 10
  | .hexadecimal => some 16
  | .binary => none

@[simp] theorem Base.ofRadix_radix (b : Base) : Base.ofRadix b.radix = .ok b := by
  cases b <;> rfl

/-- The columns a word takes, a negative decimal of ten digits excepted. -/
def Base.width : Base → Nat
  | .decimal => 10
  | .hexadecimal => 8
  | .binary => 32

/-- The characters of a word, padded to its column. Zeros pad all but negative numbers, whose
sign stays next to the digits. -/
def wordChars (base : Base) (value : Int) : List Char :=
  match base with
  | .hexadecimal => Numeral.fixed 16 8 (toWord value)
  | .binary => Numeral.fixed 2 32 (toWord value)
  | .decimal =>
    if 0 ≤ toSigned value then Numeral.fixed 10 10 (toSigned value).toNat
    else Numeral.padLeft 10 ' ' ('-' :: Numeral.digits 10 (toSigned value).natAbs)

/-- A word as dumps write it. -/
def formatWord (base : Base) (value : Int) : String :=
  String.ofList (wordChars base value)

/-- The characters of an address in brackets. -/
def tagChars (address : Int) : List Char :=
  '[' :: Numeral.fixed 16 8 (toWord address) ++ [']']

/-- An address in brackets. -/
def addressTag (address : Int) : String :=
  String.ofList (tagChars address)

/-- The character shown for a byte: itself if it is printable ASCII, else a full stop. -/
def byteChar (value : Int) : Char :=
  let n := (value % 256).toNat
  if 0x20 ≤ n ∧ n ≤ 0x7E then Char.ofNat n else '.'

/-- Rounds to a multiple: for a positive one, to the least that is not below the value. -/
def roundUp (value multiple : Int) : Int :=
  Int.fdiv (value + multiple - 1) multiple * multiple

/-- Rounding to multiples of zero. -/
structure ZeroMultiple where
  deriving DecidableEq, Repr

def ZeroMultiple.message (_ : ZeroMultiple) : String :=
  "integer division or modulo by zero"

/-- Rounds to a multiple, refused if that is zero. -/
def roundUp? (value multiple : Int) : Except ZeroMultiple Int :=
  if multiple = 0 then .error {} else .ok (roundUp value multiple)

end Stepboard.Memory
