import Stepboard.Memory.Word
import Stepboard.Text.Blank
/-!
# Collapsed lines

Reads back the line that a dump writes for a run of zero words: two bracketed addresses of eight
hexadecimal digits joined by two full stops, white space, and nothing but zeros. White space around
the line does not matter.
-/

namespace Stepboard.Memory

/-- The bytes from `first` up to but not including `stop`. -/
structure ZeroRun where
  first : Nat
  stop : Nat
  deriving DecidableEq, Repr

namespace ZeroRun

/-- Reads a bracketed address at the head of a text and gives the rest. -/
def readTag (cs : List Char) : Option (Nat × List Char) :=
  match cs with
  | '[' :: cs =>
    let digits := cs.take 8
    match cs.drop 8 with
    | ']' :: rest => if digits.length = 8 then (Numeral.ofHex? digits).map (·, rest) else none
    | _ => none
  | _ => none

/-- Whether a text is white space and then zeros, one of each at least. -/
def isZeroTail (cs : List Char) : Bool :=
  let zeros := cs.dropWhile Text.isBlank
  (cs.head?.any Text.isBlank) && !zeros.isEmpty && zeros.all (· == '0')

/-- Reads a collapsed line without white space around it. -/
def ofChars? (cs : List Char) : Option ZeroRun := do
  let (first, rest) ← readTag cs
  match rest with
  | '.' :: '.' :: rest =>
    let (last, rest) ← readTag rest
    if isZeroTail rest && first ≤ last then some ⟨first, last + wordSize⟩ else none
  | _ => none

/-- Reads a collapsed line. -/
def parse? (line : String) : Option ZeroRun :=
  ofChars? (Text.trim line.toList)

/-- The words of a run. -/
def wordCount (run : ZeroRun) : Nat :=
  (run.stop - run.first + (wordSize - 1)) / wordSize

/-- The addresses of the first `limit` words of a run. -/
def firstAddresses (limit : Nat) (run : ZeroRun) : List Nat :=
  (List.range (min limit run.wordCount)).map fun i => run.first + wordSize * i

/-- The addresses of all words of a run. -/
def addresses (run : ZeroRun) : List Nat :=
  (List.range run.wordCount).map fun i => run.first + wordSize * i

theorem firstAddresses_eq_take (limit : Nat) (run : ZeroRun) :
    run.firstAddresses limit = run.addresses.take limit := by
  simp [firstAddresses, addresses, ← List.map_take, List.take_range]

/-- The words a collapsed line stands for, each with its value; other lines stand for none. -/
def expand (line : String) : List (Nat × Int) :=
  match parse? line with
  | some run => run.addresses.map (·, 0)
  | none => []

end ZeroRun

end Stepboard.Memory
