import Stepboard.Memory.Word
/-!
# Memory dumps

A dump covers the words from the first whole word at or after its start up to its end. A run of
at least four zero words is one line that names the first and the last of them; every other line
holds up to four words, ends at a sixteen byte boundary or at the end of the dump, and shows the
bytes of its words as characters.

Memory is read through a `Reader` in any monad, so that a read may fail or change the machine; the
words of a run are read in order until one is not zero, and a line that is not a run reads its
words and then its bytes.
-/

namespace Stepboard.Memory

/-- Words on a full line. -/
def lineWords : Nat := 4

/-- Bytes on a full line. -/
def lineSize : Nat := 16

/-- The shortest run of zero words that is collapsed. -/
def minZeroRun : Nat := 4

/-- How memory is read. -/
structure Reader (m : Type → Type) where
  readWord : Int → m Int
  readByte : Int → m Int

/-- A line of a dump. -/
inductive Line where
  /-- A run of zero words, given by the addresses of its first and last. -/
  | zeros (first last : Int)
  /-- Up to four words and their bytes. -/
  | data (address : Int) (words bytes : List Int)
  deriving DecidableEq, Repr

/-- The characters of a line. Missing words leave their columns blank. -/
def Line.chars (base : Base) : Line → List Char
  | .zeros first last =>
    tagChars first ++ ['.', '.'] ++ tagChars last ++ [' ', ' '] ++ wordChars base 0
  | .data address words bytes =>
    tagChars address ++ words.flatMap (fun w => ' ' :: ' ' :: wordChars base w) ++
      List.replicate ((lineWords - words.length) * (base.width + 2)) ' ' ++ [' ', ' '] ++
      bytes.map byteChar

/-- The text of a line. -/
def Line.render (base : Base) (line : Line) : String :=
  String.ofList (line.chars base)

/-- The words that start at `address` or later and before `stop`, counted in steps of a word. -/
def wordCount (address stop : Int) : Nat :=
  ((stop - address + (wordSize - 1)) / wordSize).toNat

/-- The words from a word's address to the next line boundary. -/
def wordsToBoundary (address : Int) : Nat :=
  lineWords - (address / wordSize % lineWords).toNat

theorem wordsToBoundary_pos (address : Int) : 0 < wordsToBoundary address := by
  simp only [wordsToBoundary, lineWords, wordSize]
  omega

theorem wordsToBoundary_le (address : Int) : wordsToBoundary address ≤ lineWords :=
  Nat.sub_le ..

section

variable {m : Type → Type} [Monad m] (memory : Reader m)

/-- Adds to `count` the zero words from `address` on, reading at most `limit` of them and no word
after the first that is not zero. -/
def zeroRunFrom (count : Nat) (address : Int) : Nat → m Nat
  | 0 => pure count
  | limit + 1 => do
    if toWord (← memory.readWord address) = 0 then
      zeroRunFrom (count + 1) (address + wordSize) limit
    else
      pure count

/-- The length of the run of zero words at `address`, reading at most `limit` words. -/
def zeroRun (address : Int) (limit : Nat) : m Nat :=
  zeroRunFrom memory 0 address limit

/-- Reads in order the values at `count` places, `step` apart. -/
def readEach (read : Int → m Int) (step : Int) : Int → Nat → m (List Int)
  | _, 0 => pure []
  | address, count + 1 => do
    let value ← read address
    let rest ← readEach read step (address + step) count
    pure (value :: rest)

/-- Reads a line of `count` words. -/
def readLine (address : Int) (count : Nat) : m Line := do
  let words ← readEach memory.readWord wordSize address count
  let bytes ← readEach memory.readByte 1 address (wordSize * count)
  pure (.data address words bytes)

/-- The lines of the `remaining` words from `address` on. -/
def linesFrom (address : Int) (remaining : Nat) : m (List Line) := do
  if _ : remaining = 0 then pure [] else
  let run ← zeroRun memory address remaining
  if _ : minZeroRun ≤ run then
    let rest ← linesFrom (address + wordSize * run) (remaining - run)
    pure (.zeros address (address + wordSize * (run - 1)) :: rest)
  else
    let count := min remaining (wordsToBoundary address)
    let line ← readLine memory address count
    let rest ← linesFrom (address + wordSize * count) (remaining - count)
    pure (line :: rest)
termination_by remaining
decreasing_by
  · simp only [minZeroRun] at *
    omega
  · have := wordsToBoundary_pos address
    omega

/-- The lines of a dump. A start that is off a line boundary first makes a line up to it, whatever
that line holds. -/
def dumpLines (start stop : Int) : m (List Line) := do
  let address := roundUp start wordSize
  let remaining := wordCount address stop
  if remaining = 0 then pure []
  else if address % lineSize = 0 then linesFrom memory address remaining
  else
    let count := min remaining (wordsToBoundary address)
    let line ← readLine memory address count
    let rest ← linesFrom memory (address + wordSize * count) (remaining - count)
    pure (line :: rest)

/-- The text of a dump. -/
def formatMemory (start stop : Int) (base : Base) : m (List String) := do
  let lines ← dumpLines memory start stop
  pure (lines.map (Line.render base))

end

end Stepboard.Memory
