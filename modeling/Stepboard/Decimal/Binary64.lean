/-!
# Double precision numbers

A finite number is a sign, a mantissa and a power of two. A decimal numeral is read as the nearest
such number, a tie going to the even mantissa; what is too large is infinite, what is too small is
zero, and zero keeps its sign.
-/

namespace Stepboard

/-- A double precision number. -/
inductive Binary64 where
  | nan
  | infinite (negative : Bool)
  /-- The number of magnitude `mantissa * 2 ^ exponent`. -/
  | finite (negative : Bool) (mantissa : Nat) (exponent : Int)
  deriving DecidableEq, Repr

namespace Binary64

/-- Bits of a mantissa. -/
def precision : Nat := 53

/-- The exponents of the smallest and of the largest mantissas. -/
def minExponent : Int := -1074
def maxExponent : Int := 971

/-- A quotient rounded to the nearest integer, a tie going to the even one. -/
def roundQuotient (n d : Nat) : Nat :=
  let q := n / d
  let r := n % d
  if 2 * r < d ∨ (2 * r = d ∧ q % 2 = 0) then q else q + 1

/-- The power of two at or below a positive quotient. -/
def floorLog (n d : Nat) : Int :=
  let e : Int := (n.log2 : Int) - d.log2
  if d * Nat.pow 2 e.toNat ≤ n * Nat.pow 2 (-e).toNat then e else e - 1

/-- The number nearest to a positive quotient. -/
def ofQuotient (negative : Bool) (n d : Nat) : Binary64 :=
  let exponent := max (floorLog n d - (precision - 1 : Nat)) minExponent
  let mantissa :=
    roundQuotient (n * Nat.pow 2 (-exponent).toNat) (d * Nat.pow 2 exponent.toNat)
  let (mantissa, exponent) :=
    if mantissa = Nat.pow 2 precision then (Nat.pow 2 (precision - 1), exponent + 1)
    else (mantissa, exponent)
  if maxExponent < exponent then .infinite negative else .finite negative mantissa exponent

/-- Powers of ten beyond which every numeral is infinite or zero. -/
def decimalLimit : Int := 400

/-- The number nearest to `digits * 10 ^ exponent`. -/
def ofDecimal (negative : Bool) (digits : Nat) (exponent : Int) : Binary64 :=
  if digits = 0 then .finite negative 0 0
  else if decimalLimit < exponent then .infinite negative
  else if exponent + digits.log2 + 1 < -decimalLimit then .finite negative 0 0
  else ofQuotient negative (digits * Nat.pow 10 exponent.toNat) (Nat.pow 10 (-exponent).toNat)

/-- Whether a number is zero. -/
def isZero : Binary64 → Bool
  | .finite _ mantissa _ => mantissa == 0
  | _ => false

/-- The integer part of a finite number. -/
def truncate (negative : Bool) (mantissa : Nat) (exponent : Int) : Int :=
  let magnitude := mantissa * Nat.pow 2 exponent.toNat / Nat.pow 2 (-exponent).toNat
  if negative then -magnitude else magnitude

end Binary64

end Stepboard
