/-!
# Blank characters

The characters that count as white space everywhere in this library, and trimming by them. The
set is Unicode's white space together with the four information separators.
-/

namespace Stepboard.Text

/-- Whether a character is white space. -/
def isBlank (c : Char) : Bool :=
  let n := c.toNat
  (9 ≤ n && n ≤ 13) || (0x1C ≤ n && n ≤ 0x20) || n == 0x85 || n == 0xA0 || n == 0x1680 ||
    (0x2000 ≤ n && n ≤ 0x200A) || n == 0x2028 || n == 0x2029 || n == 0x202F || n == 0x205F ||
    n == 0x3000

/-- Drops the items of a class from the end of a list. -/
def trimEnd {α : Type} (p : α → Bool) (xs : List α) : List α :=
  (xs.reverse.dropWhile p).reverse

/-- Drops white space from both ends of a text. -/
def trim (cs : List Char) : List Char :=
  trimEnd isBlank (cs.dropWhile isBlank)

/-- Drops white space from both ends of a string. -/
def strip (s : String) : String :=
  String.ofList (trim s.toList)

@[simp] theorem toList_strip (s : String) : (strip s).toList = trim s.toList := by
  simp [strip]

end Stepboard.Text
