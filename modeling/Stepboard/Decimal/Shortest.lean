import Stepboard.Decimal.Binary64
import Stepboard.Text.Numeral
/-!
# Shortest decimals

The text of a double precision number is the shortest decimal that reads back as it, and of several
the nearest. The decimals that read back lie in an interval around the number, its ends included
when the mantissa is even. For each count of digits only the two decimals next to the number need
to be tried.
-/

namespace Stepboard.Binary64

/-- A positive rational number. -/
structure Ratio where
  num : Nat
  den : Nat
  deriving Repr

namespace Ratio

def le (a b : Ratio) : Bool :=
  a.num * b.den ≤ b.num * a.den

def lt (a b : Ratio) : Bool :=
  a.num * b.den < b.num * a.den

/-- A number times a power of a base. -/
def scaled (n base : Nat) (exponent : Int) : Ratio :=
  ⟨n * Nat.pow base exponent.toNat, Nat.pow base (-exponent).toNat⟩

/-- The distance between two numbers. -/
def distance (a b : Ratio) : Ratio :=
  ⟨(max (a.num * b.den) (b.num * a.den)) - (min (a.num * b.den) (b.num * a.den)), a.den * b.den⟩

/-- Where the point stands: the least power of ten above a number. -/
def pointPosition (a : Ratio) : Int :=
  if a.den ≤ a.num then ((Numeral.digits 10 (a.num / a.den)).length : Int)
  else
    let below := (Numeral.digits 10 (a.den / a.num)).length
    if a.den ≤ a.num * Nat.pow 10 (below - 1) then 2 - below else 1 - below

end Ratio

/-- The decimals that read back as a number, between two ends. -/
structure Interval where
  low : Ratio
  high : Ratio
  closed : Bool

namespace Interval

def contains (i : Interval) (a : Ratio) : Bool :=
  if i.closed then i.low.le a && a.le i.high else i.low.lt a && a.lt i.high

/-- The interval of a number. Below a power of two the numbers lie closer together. -/
def ofNumber (mantissa : Nat) (exponent : Int) : Interval :=
  let atPower := mantissa = Nat.pow 2 (precision - 1) ∧ minExponent < exponent
  { low := Ratio.scaled (4 * mantissa - if atPower then 1 else 2) 2 (exponent - 2)
    high := Ratio.scaled (4 * mantissa + 2) 2 (exponent - 2)
    closed := mantissa % 2 == 0 }

end Interval

/-- The nearer of the two decimals next to a number on a grid, if one of them reads back. -/
def onGrid (value : Ratio) (i : Interval) (gridExponent : Int) : Option Nat :=
  let below :=
    value.num * Nat.pow 10 (-gridExponent).toNat / (value.den * Nat.pow 10 gridExponent.toNat)
  let candidate (n : Nat) := Ratio.scaled n 10 gridExponent
  let down := value.distance (candidate below)
  let up := value.distance (candidate (below + 1))
  let nearer := if down.lt up ∨ (down.le up ∧ below % 2 = 0) then below else below + 1
  let other := if nearer = below then below + 1 else below
  if i.contains (candidate nearer) then some nearer
  else if i.contains (candidate other) then some other
  else none

/-- Tries ever more digits. With seventeen a decimal always reads back. -/
def shortestFrom (value : Ratio) (i : Interval) (point : Int) (digits : Nat) : Nat → Nat × Int
  | 0 => (0, point)
  | tries + 1 =>
    match onGrid value i (point - digits) with
    | some n => (n, point - digits)
    | none => shortestFrom value i point (digits + 1) tries

/-- The digits of the shortest decimal of a positive number, and the power of ten of the last. -/
def shortest (mantissa : Nat) (exponent : Int) : Nat × Int :=
  let value := Ratio.scaled mantissa 2 exponent
  shortestFrom value (Interval.ofNumber mantissa exponent) value.pointPosition 1 17

/-- The exponents of the leading digit that are written without an exponent. -/
def positionalFrom : Int := -4
def positionalBelow : Int := 16

/-- The text of digits whose last stands for a power of ten. -/
def decimalText (digits : List Char) (lastPower : Int) : List Char :=
  let point := lastPower + digits.length
  if positionalFrom < point ∧ point ≤ positionalBelow then
    if point ≤ 0 then '0' :: '.' :: List.replicate (-point).toNat '0' ++ digits
    else if 0 ≤ lastPower then digits ++ List.replicate lastPower.toNat '0' ++ ['.', '0']
    else digits.take point.toNat ++ '.' :: digits.drop point.toNat
  else
    let mark := if point ≤ 0 then ['e', '-'] else ['e', '+']
    let fraction := if digits.length ≤ 1 then [] else '.' :: digits.drop 1
    digits.take 1 ++ fraction ++ mark ++
      Numeral.padLeft 2 '0' (Numeral.digits 10 (point - 1).natAbs)

/-- The digits of a decimal without the zeros at its end. -/
def significant (digits : List Char) (lastPower : Int) : List Char × Int :=
  let kept := (digits.reverse.dropWhile (· == '0')).reverse
  (kept, lastPower + (digits.length - kept.length : Nat))

/-- The text of a number. -/
def text : Binary64 → String
  | .nan => "nan"
  | .infinite negative => if negative then "-inf" else "inf"
  | .finite negative mantissa exponent =>
    let chars :=
      if mantissa = 0 then ['0', '.', '0']
      else
        let (n, lastPower) := shortest mantissa exponent
        let (digits, lastPower) := significant (Numeral.digits 10 n) lastPower
        decimalText digits lastPower
    String.ofList (if negative then '-' :: chars else chars)

end Stepboard.Binary64
