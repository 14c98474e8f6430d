import Stepboard.Text.Utf8
/-!
# Reading keys

A key arrives as bytes. An escape character opens a sequence of up to three bytes, and nine such
sequences name keys; any other byte opens a character of as many bytes as it announces, whatever
the following bytes are. A sequence ends early where no byte is waiting, and a character where the
input ends. The bytes may arrive in any chunks, also while a key is being read.
-/

namespace Stepboard.Key

/-- The escape character. -/
def escape : Char := Char.ofNat 0x1B

/-- The key at the end of input. -/
def eof : String := "eof"

/-- Control characters that have a key name. -/
def controlKeys : List (String × String) :=
  [("\t", "tab"), ("\r", "enter"), ("\n", "enter"), ("\x03", "ctrl-c")]

/-- Key names of escape sequences, without the escape character. -/
def escapeSequences : List (String × String) :=
  [("[A", "up"), ("[B", "down"), ("[C", "right"), ("[D", "left"),
   ("OA", "up"), ("OB", "down"), ("OC", "right"), ("OD", "left"), ("[Z", "shift-tab")]

/-- The name of the key that a text comes from. -/
def decode (sequence : String) : String :=
  match controlKeys.lookup sequence with
  | some key => key
  | none =>
    match sequence.toList with
    | c :: cs =>
      if c = escape then (escapeSequences.lookup (String.ofList cs)).getD "escape" else sequence
    | [] => sequence

/-- The bytes of the character that a byte announces. -/
def announcedLength (lead : Int) : Nat :=
  if lead / 32 = 6 then 2
  else if lead / 16 = 14 then 3
  else if lead / 8 = 30 then 4
  else 1

/-- A key, the bytes it was read from, and the bytes after them. -/
structure Press where
  key : String
  taken : List UInt8
  rest : List UInt8
  deriving DecidableEq, Repr

/-- The bytes that a key takes when it begins with a given byte. -/
def frameLength (lead : UInt8) : Nat :=
  if lead.toNat = escape.toNat then 3 else announcedLength lead.toNat

/-- Reads one key from the bytes that are waiting; with none, the input has ended. -/
def read : List UInt8 → Press
  | [] => ⟨eof, [], []⟩
  | lead :: bytes =>
    let more := frameLength lead - 1
    let taken := lead :: bytes.take more
    ⟨decode (Utf8.decodeString taken), taken, bytes.drop more⟩

theorem length_rest_read (lead : UInt8) (bytes : List UInt8) :
    (read (lead :: bytes)).rest.length ≤ bytes.length := by
  simp [read]

/-- Reads the keys up to the end of the input. -/
def readAll : List UInt8 → List Press
  | [] => []
  | lead :: bytes => read (lead :: bytes) :: readAll (read (lead :: bytes)).rest
termination_by bytes => bytes.length
decreasing_by
  have := length_rest_read lead bytes
  simp only [List.length_cons]
  omega

/-- An input: the bytes that have arrived and were not read yet, and the chunks that are still to
come. The next chunk, which may be empty, comes before each call that asks for bytes, and further
ones come while a call waits. After the last the input has ended. -/
structure Input where
  waiting : List UInt8 := []
  coming : List (List UInt8) := []
  deriving DecidableEq, Repr

/-- The bytes read of a key so far, and whether a call part way through it found none waiting. -/
structure Portion where
  bytes : List UInt8
  starved : Bool := false
  deriving DecidableEq, Repr

/-- A key as it was read from an input: its name, its bytes, and whether a call part way through it
found none waiting. -/
structure Stroke where
  key : String
  taken : List UInt8 := []
  starved : Bool := false
  deriving DecidableEq, Repr

namespace Input

/-- Lets bytes arrive. -/
def feed (i : Input) (bytes : List UInt8) : Input :=
  { i with waiting := i.waiting ++ bytes }

/-- Lets the next chunk arrive. -/
def arrive (i : Input) : Input :=
  match i.coming with
  | [] => i
  | chunk :: chunks => ⟨i.waiting ++ chunk, chunks⟩

/-- Lets chunks arrive until there is a byte, or no chunk any more. -/
def waitFrom : List UInt8 → List (List UInt8) → Input
  | [], chunk :: chunks => waitFrom chunk chunks
  | waiting, coming => ⟨waiting, coming⟩

/-- Takes up to a number of bytes, but waits for the first. It gives none only at the end of the
input. -/
def receive (i : Input) (count : Nat) : List UInt8 × Input :=
  let i := waitFrom i.arrive.waiting i.arrive.coming
  (i.waiting.take count, { i with waiting := i.waiting.drop count })

/-- Takes bytes until a key has a given number of them or the input has ended. -/
def complete (length : Nat) (got : Portion) (i : Input) : Portion × Input :=
  if length ≤ got.bytes.length then (got, i)
  else
    let starved := got.starved || i.arrive.waiting.isEmpty
    match i.receive (length - got.bytes.length) with
    | ([], i) => ({ got with starved }, i)
    | (b :: bs, i) => complete length ⟨got.bytes ++ b :: bs, starved⟩ i
termination_by length - got.bytes.length
decreasing_by
  simp only [List.length_append, List.length_cons]
  omega

/-- Takes a number of bytes one by one, as long as one is ready. -/
def takeReady : Nat → Portion → Input → Portion × Input
  | 0, got, i => (got, i)
  | count + 1, got, i =>
    match i.arrive with
    | ⟨[], coming⟩ => ({ got with starved := true }, ⟨[], coming⟩)
    | ⟨b :: waiting, coming⟩ =>
      takeReady count { got with bytes := got.bytes ++ [b] } ⟨waiting, coming⟩

/-- Reads one key. -/
def readKey (i : Input) : Stroke × Input :=
  match i.receive 1 with
  | ([], i) => ({ key := eof }, i)
  | (lead :: _, i) =>
    let (got, i) :=
      if lead.toNat = escape.toNat then takeReady 2 ⟨[lead], false⟩ i
      else complete (announcedLength lead.toNat) ⟨[lead], false⟩ i
    (⟨decode (Utf8.decodeString got.bytes), got.bytes, got.starved⟩, i)

/-- Reads a number of keys. -/
def take (i : Input) : Nat → List Stroke × Input
  | 0 => ([], i)
  | n + 1 =>
    let (stroke, i) := i.readKey
    let (strokes, i) := i.take n
    (stroke :: strokes, i)

end Input

end Stepboard.Key
