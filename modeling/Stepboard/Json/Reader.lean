import Stepboard.Json.Value
import Stepboard.Keyed
/-!
# Reading JSON

Reads a text as one JSON value with white space around it. Beyond the standard the names of the
numbers that are not finite are read too, and so are halves of pairs. An error says what was
expected and at which character. How many containers may lie one in another depends on the stack
that is left to the reader, and is given to it. Every part that is read leaves less than it was
given, which is what the recursion rests on.
-/

namespace Stepboard.Json

/-- What is wrong with a text. -/
inductive Defect where
  | value
  | name
  | colon
  | comma
  | extra
  | control
  | escape
  | codeEscape
  | unterminated
  | byteOrderMark
  deriving DecidableEq, Repr

def Defect.message : Defect → String
  | value => "Expecting value"
  | name => "Expecting property name enclosed in double quotes"
  | colon => "Expecting ':' delimiter"
  | comma => "Expecting ',' delimiter"
  | extra => "Extra data"
  | control => "Invalid control character at"
  | escape => "Invalid \\escape"
  | codeEscape => "Invalid \\uXXXX escape"
  | unterminated => "Unterminated string starting at"
  | byteOrderMark => "Unexpected UTF-8 BOM (decode using utf-8-sig)"

/-- The values that hold others. -/
inductive Container where
  | array
  | object
  deriving DecidableEq, Repr

def Container.name : Container → String
  | array => "array"
  | object => "object"

/-- Why a text cannot be read: a defect at a character, an integer of too many digits, or a
container that lies in too many others. -/
inductive ReadError where
  | defect (d : Defect) (position : Nat)
  | longInteger (digits : Nat)
  | tooDeep (c : Container)
  deriving DecidableEq, Repr

/-- Digits that an integer may have. -/
def maxDigits : Nat := 4300

/-- The line and the column of a position in a text, both counted from one. -/
def lineAndColumn (text : List Char) (position : Nat) : Nat × Nat :=
  let before := text.take position
  (before.count '\n' + 1, (before.reverse.takeWhile (· != '\n')).length + 1)

/-- What an error says of a text. -/
def ReadError.message (text : List Char) : ReadError → String
  | .defect d position =>
    let (line, column) := lineAndColumn text position
    d.message ++ ": line " ++ Numeral.decimal line ++ " column " ++ Numeral.decimal column ++
      " (char " ++ Numeral.decimal position ++ ")"
  | .longInteger digits =>
    "Exceeds the limit (" ++ Numeral.decimal maxDigits ++
      " digits) for integer string conversion: value has " ++ Numeral.decimal digits ++
      " digits; use sys.set_int_max_str_digits() to increase the limit"
  | .tooDeep c =>
    "maximum recursion depth exceeded while decoding a JSON " ++ c.name ++ " from a unicode string"

/-- A position and the text from there on. -/
structure Cursor where
  position : Nat
  rest : List Char

namespace Cursor

/-- The characters left. -/
def size (c : Cursor) : Nat :=
  c.rest.length

/-- Goes on by a number of characters. -/
def skip (c : Cursor) (n : Nat) : Cursor :=
  ⟨c.position + n, c.rest.drop n⟩

theorem size_skip_le (c : Cursor) (n : Nat) : (c.skip n).size ≤ c.size := by
  simp [skip, size]

theorem size_skip_lt {c : Cursor} {n : Nat} (hn : 0 < n) (h : c.rest ≠ []) :
    (c.skip n).size < c.size := by
  have : 0 < c.rest.length := List.length_pos_iff.mpr h
  simp only [skip, size, List.length_drop]
  omega

/-- Whether a character is white space between the parts of a value. -/
def isSpace (ch : Char) : Bool :=
  ch == ' ' || ch == '\t' || ch == '\n' || ch == '\r'

/-- Goes on over white space. -/
def skipSpace (c : Cursor) : Cursor :=
  c.skip (c.rest.takeWhile isSpace).length

theorem size_skipSpace_le (c : Cursor) : c.skipSpace.size ≤ c.size :=
  c.size_skip_le _

end Cursor

/-- What is left after reading a part of a text. -/
abbrev Shorter (c : Cursor) := { d : Cursor // d.size < c.size }

/-- The value of a hexadecimal digit of either case. -/
def hexValue? (c : Char) : Option Nat :=
  Numeral.hexValue? (if 'A' ≤ c ∧ c ≤ 'F' then c.toLower else c)

/-- The value of four hexadecimal digits that are not the end of the text. -/
def codeUnit? : List Char → Option Nat
  | a :: b :: c :: d :: _ :: _ => do
    let a ← hexValue? a
    let b ← hexValue? b
    let c ← hexValue? c
    let d ← hexValue? d
    some (((a * 16 + b) * 16 + c) * 16 + d)
  | _ => none

/-- Characters that stand for another after a backslash. -/
def simpleEscapes : List (Char × Char) :=
  [('"', '"'), ('\\', '\\'), ('/', '/'), ('b', Char.ofNat 8), ('f', Char.ofNat 12), ('n', '\n'),
   ('r', '\r'), ('t', '\t')]

/-- What a code unit is by itself. -/
def unitSymbol (unit : Nat) : Symbol :=
  if h : 0xD800 ≤ unit ∧ unit < 0xE000 then .half ⟨unit - 0xD800, by omega⟩
  else .char (Char.ofNat unit)

/-- The second code unit of a pair, written after the first. -/
def lowUnit? (position : Nat) (cs : List Char) : Except ReadError (Option Nat) :=
  match cs with
  | '\\' :: 'u' :: rest =>
    if rest.length ≤ 4 then .ok none
    else
      match codeUnit? rest with
      | none => .error (.defect .codeEscape (position + 1))
      | some unit => .ok (if 0xDC00 ≤ unit ∧ unit < 0xE000 then some unit else none)
  | _ => .ok none

/-- Reads what follows a backslash at a position: the symbol it stands for, and how many characters
it takes. -/
def readEscape (position : Nat) : List Char → Except ReadError (Symbol × Nat)
  | [] => .error (.defect .unterminated position)
  | 'u' :: rest =>
    match codeUnit? rest with
    | none => .error (.defect .codeEscape (position + 1))
    | some unit =>
      if 0xD800 ≤ unit ∧ unit < 0xDC00 then do
        match ← lowUnit? (position + 6) (rest.drop 4) with
        | some low =>
          .ok (.char (Char.ofNat (0x10000 + (unit - 0xD800) * 0x400 + (low - 0xDC00))), 11)
        | none => .ok (unitSymbol unit, 5)
      else .ok (unitSymbol unit, 5)
  | c :: _ =>
    match simpleEscapes.lookup c with
    | some e => .ok (.char e, 1)
    | none => .error (.defect .escape position)

/-- Reads the rest of a string that started at a position, up to its closing quote. -/
def readString (start : Nat) (c : Cursor) :
    Except ReadError (List Symbol × { d : Cursor // d.size ≤ c.size }) :=
  match h : c.rest with
  | [] => .error (.defect .unterminated start)
  | '"' :: _ => .ok ([], ⟨c.skip 1, c.size_skip_le 1⟩)
  | '\\' :: after => do
    have : c.rest ≠ [] := by simp [h]
    if after.isEmpty then .error (.defect .unterminated start)
    else
      let (e, taken) ← readEscape c.position after
      let (s, d) ← readString start (c.skip (taken + 1))
      .ok (e :: s, ⟨d.1, Nat.le_trans d.2 (c.size_skip_le _)⟩)
  | ch :: _ =>
    if ch.toNat < 0x20 then .error (.defect .control c.position)
    else do
      have : c.rest ≠ [] := by simp [h]
      let (s, d) ← readString start (c.skip 1)
      .ok (.char ch :: s, ⟨d.1, Nat.le_trans d.2 (c.size_skip_le _)⟩)
termination_by c.size
decreasing_by
  all_goals exact Cursor.size_skip_lt (by omega) this

def isDigit (c : Char) : Bool :=
  '0' ≤ c && c ≤ '9'

/-- The number that digits write. -/
def natOfDigits (cs : List Char) : Nat :=
  cs.foldl (fun n c => 10 * n + (c.toNat - '0'.toNat)) 0

/-- The fraction digits at the head of a text, after a point. -/
def fractionDigits : List Char → List Char
  | '.' :: cs => cs.takeWhile isDigit
  | _ => []

/-- The exponent at the head of a text, and how many characters it takes. -/
def exponentPart : List Char → Option (Int × Nat)
  | e :: cs =>
    if e = 'e' ∨ e = 'E' then
      let (sign, signLength) : Int × Nat :=
        match cs with
        | '+' :: _ => (1, 1)
        | '-' :: _ => (-1, 1)
        | _ => (1, 0)
      let digits := (cs.drop signLength).takeWhile isDigit
      if digits.isEmpty then none
      else some (sign * natOfDigits digits, 1 + signLength + digits.length)
    else none
  | [] => none

/-- The integer digits at the head of a text: a zero, or digits that start with another. -/
def integerDigits : List Char → List Char
  | '0' :: _ => ['0']
  | cs => cs.takeWhile isDigit

/-- The number at the head of a text and how many characters it takes. -/
def readNumber (cs : List Char) : Except ReadError (Option (Value × Nat)) :=
  let negative := cs.head? == some '-'
  let signLength := if negative then 1 else 0
  let integer := integerDigits (cs.drop signLength)
  if integer.isEmpty then .ok none
  else
    let fraction := fractionDigits (cs.drop (signLength + integer.length))
    let pointLength := if fraction.isEmpty then 0 else 1 + fraction.length
    let length := signLength + integer.length + pointLength
    match exponentPart (cs.drop length), fraction with
    | none, [] =>
      if maxDigits < integer.length then .error (.longInteger integer.length)
      else
        let n : Int := natOfDigits integer
        .ok (some (.int (if negative then -n else n), length))
    | exponent, _ =>
      let (power, exponentLength) := exponent.getD (0, 0)
      let x := Binary64.ofDecimal negative (natOfDigits (integer ++ fraction))
        (power - fraction.length)
      .ok (some (.float x, length + exponentLength))

/-- Values that are written as words. -/
def words : List (String × Value) :=
  [("null", .null), ("true", .bool true), ("false", .bool false), ("NaN", .float .nan),
   ("Infinity", .float (.infinite false)), ("-Infinity", .float (.infinite true))]

/-- The word at the head of a text and how many characters it takes. -/
def readWord (cs : List Char) : Option (Value × Nat) :=
  (words.find? fun w => w.1.toList.isPrefixOf cs).map fun w => (w.2, w.1.length)

/-- Reads a word or a number. -/
def readAtom (c : Cursor) (_ : c.rest ≠ []) : Except ReadError (Value × Shorter c) :=
  match readWord c.rest with
  | some (v, n) =>
    if hn : 0 < n then .ok (v, ⟨c.skip n, Cursor.size_skip_lt hn ‹_›⟩)
    else .error (.defect .value c.position)
  | none =>
    match readNumber c.rest with
    | .error e => .error e
    | .ok none => .error (.defect .value c.position)
    | .ok (some (v, n)) =>
      if hn : 0 < n then .ok (v, ⟨c.skip n, Cursor.size_skip_lt hn ‹_›⟩)
      else .error (.defect .value c.position)

/-- Goes over a character that stands at the cursor, and over the white space after it. -/
def pass (c : Cursor) (h : c.rest ≠ []) : Shorter c :=
  ⟨(c.skip 1).skipSpace,
    Nat.lt_of_le_of_lt (Cursor.size_skipSpace_le _) (Cursor.size_skip_lt (by omega) h)⟩

/-- Goes over the last character of an array or an object. -/
def close (c : Cursor) (h : c.rest ≠ []) : Shorter c :=
  ⟨c.skip 1, Cursor.size_skip_lt (by omega) h⟩

/-- What is left of a shorter text is shorter still. -/
def Shorter.of {c : Cursor} (d : Shorter c) (e : Shorter d.1) : Shorter c :=
  ⟨e.1, Nat.lt_trans e.2 d.2⟩

/-- Goes over white space after a part that was read. -/
def Shorter.skipSpace {c : Cursor} (d : Shorter c) : Shorter c :=
  ⟨d.1.skipSpace, Nat.lt_of_le_of_lt (Cursor.size_skipSpace_le _) d.2⟩

/-- Reads a member's name, the colon, and the white space around it. -/
def readName (c : Cursor) : Except ReadError (LooseText × Shorter c) :=
  match h : c.rest with
  | '"' :: _ => do
    let first := close c (by simp [h])
    let (name, d) ← readString c.position first.1
    let d : Shorter c := Shorter.skipSpace ⟨d.1, Nat.lt_of_le_of_lt d.2 first.2⟩
    match hd : d.1.rest with
    | ':' :: _ => .ok (LooseText.ofSymbols name, d.of (pass d.1 (by simp [hd])))
    | _ => .error (.defect .colon d.1.position)
  | _ => .error (.defect .name c.position)

mutual

/-- Reads a value, in which `depth` containers may lie one in another. -/
def readValue (depth : Nat) (c : Cursor) : Except ReadError (Value × Shorter c) :=
  match h : c.rest with
  | [] => .error (.defect .value c.position)
  | '"' :: _ => do
    let first := close c (by simp [h])
    let (s, d) ← readString c.position first.1
    .ok (.str (LooseText.ofSymbols s), ⟨d.1, Nat.lt_of_le_of_lt d.2 first.2⟩)
  | '[' :: _ =>
    let first := pass c (by simp [h])
    if depth = 0 then .error (.tooDeep .array)
    else
      match hf : first.1.rest with
      | ']' :: _ => .ok (.arr [], first.of (close first.1 (by simp [hf])))
      | _ => do
        let (items, d) ← readItems (depth - 1) first.1
        .ok (.arr items, first.of d)
  | '\x7b' :: _ =>
    let first := pass c (by simp [h])
    if depth = 0 then .error (.tooDeep .object)
    else
      match hf : first.1.rest with
      | '\x7d' :: _ => .ok (.obj [], first.of (close first.1 (by simp [hf])))
      | _ => do
        let (members, d) ← readMembers (depth - 1) [] first.1
        .ok (.obj members, first.of d)
  | _ :: _ => readAtom c (by simp [h])
termination_by (c.size, 0)
decreasing_by
  all_goals exact Prod.Lex.left _ _ first.2

/-- Reads the items of an array from the first on, and its end. -/
def readItems (depth : Nat) (c : Cursor) : Except ReadError (List Value × Shorter c) := do
  let (v, d) ← readValue depth c
  let d := d.skipSpace
  match h : d.1.rest with
  | ']' :: _ => .ok ([v], d.of (close d.1 (by simp [h])))
  | ',' :: _ =>
    let next := d.of (pass d.1 (by simp [h]))
    let (vs, e) ← readItems depth next.1
    .ok (v :: vs, next.of e)
  | _ => .error (.defect .comma d.1.position)
termination_by (c.size, 1)
decreasing_by
  · exact Prod.Lex.right _ (by omega)
  · exact Prod.Lex.left _ _ next.2

/-- Reads the members of an object after those that came before, and its end. -/
def readMembers (depth : Nat) (before : List (LooseText × Value)) (c : Cursor) :
    Except ReadError (List (LooseText × Value) × Shorter c) := do
  let (name, d) ← readName c
  let (v, e) ← readValue depth d.1
  let members := Keyed.set before name v
  let e := (d.of e).skipSpace
  match h : e.1.rest with
  | '\x7d' :: _ => .ok (members, e.of (close e.1 (by simp [h])))
  | ',' :: _ =>
    let next := e.of (pass e.1 (by simp [h]))
    let (all, f) ← readMembers depth members next.1
    .ok (all, next.of f)
  | _ => .error (.defect .comma e.1.position)
termination_by (c.size, 1)
decreasing_by
  · exact Prod.Lex.left _ _ d.2
  · exact Prod.Lex.left _ _ next.2

end

/-- Reads a whole text, in which `depth` containers may lie one in another. -/
def read (depth : Nat) (text : List Char) : Except ReadError Value := do
  if text.head? == some (Char.ofNat 0xFEFF) then .error (.defect .byteOrderMark 0)
  else
    let (v, d) ← readValue depth (Cursor.skipSpace ⟨0, text⟩)
    let d := d.1.skipSpace
    if d.rest.isEmpty then .ok v else .error (.defect .extra d.position)

end Stepboard.Json
