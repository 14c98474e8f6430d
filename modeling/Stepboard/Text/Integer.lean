import Stepboard.Text.Blank
import Stepboard.Text.Digit
/-!
# Integers in running text

An integer as people write it: white space around it, a sign, decimal digits of any script, and
single underscores between digits. The information separators, which count as white space
elsewhere, do not count here.
-/

namespace Stepboard.Text

/-- White space that may stand around an integer. -/
def isNumberSpace (c : Char) : Bool :=
  isBlank c && !(0x1C ≤ c.toNat && c.toNat ≤ 0x1F)

/-- The digit values of a text of digits with single underscores between them. -/
def digitValues : List Char → Option (List Nat)
  | [] => none
  | [c] => (digitValue? c).map ([·])
  | c :: '_' :: cs => do
    let d ← digitValue? c
    let ds ← digitValues cs
    some (d :: ds)
  | c :: cs => do
    let d ← digitValue? c
    let ds ← digitValues cs
    some (d :: ds)

/-- Reads an integer of up to `maxDigits` digits. -/
def readInteger (maxDigits : Nat) (s : String) : Option Int :=
  let cs := trimEnd isNumberSpace (s.toList.dropWhile isNumberSpace)
  let (negative, cs) : Bool × List Char :=
    match cs with
    | '-' :: cs => (true, cs)
    | '+' :: cs => (false, cs)
    | cs => (false, cs)
  match digitValues cs with
  | none => none
  | some ds =>
    if maxDigits < ds.length then none
    else
      let n : Int := (ds.foldl (fun n d => 10 * n + d) 0 : Nat)
      some (if negative then -n else n)

end Stepboard.Text
