import Stepboard.Text.Quoted
import Stepboard.Text.Split
/-!
# Loose texts

A settings file may write a character beyond the first plane as a pair of code units, and it may
write half of a pair without the other. A loose text keeps such halves. They stand for no character:
messages show them by their escapes, and in the name of a file only those are taken that stand for a
byte which is not part of a character. Main statement: a loose text is known from its symbols, which
may be any.
-/

namespace Stepboard

/-- Half of a pair of code units, counted from the first one. -/
abbrev Half := Fin 0x800

namespace Half

/-- The code unit of a half. -/
def unit (h : Half) : Nat :=
  0xD800 + h.val

/-- Whether a half stands for a byte in the name of a file. -/
def isByte (h : Half) : Bool :=
  0xDC80 ≤ h.unit && h.unit < 0xDD00

/-- The escape of a half. -/
def escape (h : Half) : List Char :=
  '\\' :: 'u' :: Numeral.fixed 16 4 h.unit

end Half

/-- A character, or half of a pair. -/
inductive Symbol where
  | char (c : Char)
  | half (h : Half)
  deriving DecidableEq, Repr

/-- The character that a symbol is, if it is one. -/
def Symbol.char? : Symbol → Option Char
  | char c => some c
  | half _ => none

/-- A text that may hold halves. A torn one is given by the characters before the first half, that
half, and the symbols after it. -/
inductive LooseText where
  | whole (s : String)
  | torn (before : List Char) (half : Half) (after : List Symbol)
  deriving DecidableEq, Repr

namespace LooseText

instance : Coe String LooseText :=
  ⟨whole⟩

/-- The symbols of a text. -/
def symbols : LooseText → List Symbol
  | whole s => s.toList.map .char
  | torn before half after => before.map .char ++ .half half :: after

@[simp] theorem symbols_whole (s : String) : (whole s).symbols = s.toList.map .char := rfl

@[simp] theorem symbols_torn (before : List Char) (half : Half) (after : List Symbol) :
    (torn before half after).symbols = before.map .char ++ .half half :: after := rfl

/-- The text of some characters, in reverse, and the symbols after them. -/
def ofSymbolsAfter (before : List Char) : List Symbol → LooseText
  | [] => whole (String.ofList before.reverse)
  | .char c :: rest => ofSymbolsAfter (c :: before) rest
  | .half h :: rest => torn before.reverse h rest

/-- The text of some symbols. -/
def ofSymbols (symbols : List Symbol) : LooseText :=
  ofSymbolsAfter [] symbols

theorem symbols_ofSymbolsAfter (before : List Char) (rest : List Symbol) :
    (ofSymbolsAfter before rest).symbols = before.reverse.map .char ++ rest := by
  induction rest generalizing before with
  | nil => simp [ofSymbolsAfter]
  | cons x rest ih => cases x <;> simp [ofSymbolsAfter, ih]

@[simp] theorem symbols_ofSymbols (xs : List Symbol) : (ofSymbols xs).symbols = xs := by
  simp [ofSymbols, symbols_ofSymbolsAfter]

theorem ofSymbolsAfter_append (before cs : List Char) (rest : List Symbol) :
    ofSymbolsAfter before (cs.map .char ++ rest) = ofSymbolsAfter (cs.reverse ++ before) rest := by
  induction cs generalizing before with
  | nil => rfl
  | cons c cs ih => simp [ofSymbolsAfter, ih]

@[simp] theorem ofSymbols_symbols (t : LooseText) : ofSymbols t.symbols = t := by
  unfold ofSymbols
  cases t with
  | whole s => simpa [ofSymbolsAfter] using ofSymbolsAfter_append [] s.toList []
  | torn before half after =>
    simpa [ofSymbolsAfter] using ofSymbolsAfter_append [] before (.half half :: after)

theorem symbols_inj {t u : LooseText} : t.symbols = u.symbols ↔ t = u :=
  ⟨fun h => by rw [← ofSymbols_symbols t, h, ofSymbols_symbols], fun h => h ▸ rfl⟩

/-- Whether a text holds halves. -/
def isTorn : LooseText → Bool
  | whole _ => false
  | torn .. => true

def isEmpty : LooseText → Bool
  | whole s => s.isEmpty
  | torn .. => false

@[simp] theorem isEmpty_iff {t : LooseText} : t.isEmpty = true ↔ t = "" := by
  cases t <;> simp [isEmpty]

@[simp] theorem isEmpty_eq_false_iff {t : LooseText} : t.isEmpty = false ↔ t ≠ "" := by
  rw [← Bool.not_eq_true, isEmpty_iff]

/-- One text after another. -/
def append : LooseText → LooseText → LooseText
  | whole s, whole t => whole (s ++ t)
  | s, t => ofSymbols (s.symbols ++ t.symbols)

instance : Append LooseText :=
  ⟨append⟩

@[simp] theorem symbols_append (t u : LooseText) : (t ++ u).symbols = t.symbols ++ u.symbols := by
  change (append t u).symbols = _
  unfold append
  split <;> simp

/-- Texts with another between each two of them. -/
def intercalate (sep : LooseText) : List LooseText → LooseText
  | [] => whole ""
  | [t] => t
  | t :: ts => t ++ sep ++ intercalate sep ts

/-- The parts of a text between the occurrences of a character. -/
def parts (sep : Char) : LooseText → List LooseText
  | whole s => (Text.parts sep s).map whole
  | t => (Text.splitAt (.char sep) t.symbols).map ofSymbols

theorem splitAt_map_char (sep : Char) (cs : List Char) :
    Text.splitAt (.char sep) (cs.map Symbol.char)
      = (Text.splitAt sep cs).map (·.map Symbol.char) := by
  induction cs with
  | nil => rfl
  | cons c cs ih =>
    simp only [List.map_cons, Text.splitAt, ih, Symbol.char.injEq]
    split
    · rfl
    · cases Text.splitAt sep cs <;> rfl

/-- The parts of a text are those of its symbols. -/
theorem map_symbols_parts (sep : Char) (t : LooseText) :
    (t.parts sep).map symbols = Text.splitAt (.char sep) t.symbols := by
  cases t with
  | whole s => simp [parts, Text.parts, splitAt_map_char, Function.comp_def]
  | torn before half after => simp [parts, Function.comp_def]

/-- The characters before the first half. -/
def leading : LooseText → List Char
  | whole s => s.toList
  | torn before .. => before

/-- A text without its first symbol. -/
def tail : LooseText → LooseText
  | whole s => whole (String.ofList (s.toList.drop 1))
  | t => ofSymbols (t.symbols.drop 1)

/-- The text as it is shown where halves are not. -/
def shown : LooseText → String
  | whole s => s
  | t => String.ofList <| t.symbols.flatMap fun
    | .char c => [c]
    | .half h => h.escape

/-- A text in quotes. -/
def quote : LooseText → String
  | whole s => Text.quote s
  | t =>
    let q := Text.quoteFor (t.symbols.filterMap Symbol.char?)
    let quoted := t.symbols.flatMap fun
      | .char c => Text.escapeChar q c
      | .half h => h.escape
    String.ofList (q :: quoted ++ [q])

/-- The bytes of a text, each half that is left being one. -/
def byteSize : LooseText → Nat
  | whole s => s.utf8ByteSize
  | t => t.symbols.foldl (fun size x => size + (x.char?.map Char.utf8Size).getD 1) 0

/-- Halves in a row that no name of a file can hold: how many symbols stand before them, the first
of them, and how many they are. -/
structure EncodeError where
  position : Nat
  half : Half
  count : Nat
  deriving DecidableEq, Repr

def EncodeError.message (e : EncodeError) : String :=
  let place :=
    if e.count = 1 then
      " '" ++ String.ofList e.half.escape ++ "' in position " ++ Numeral.decimal e.position
    else
      "s in position " ++ Numeral.decimal e.position ++ "-" ++
        Numeral.decimal (e.position + e.count - 1)
  "'utf-8' codec can't encode character" ++ place ++ ": surrogates not allowed"

/-- The halves that some symbols begin with. -/
def leadingHalves : List Symbol → Nat
  | .half _ :: rest => leadingHalves rest + 1
  | _ => 0

/-- The first half that stands for no byte, from a position on, with the halves that follow it. -/
def encodeErrorFrom (position : Nat) : List Symbol → Option EncodeError
  | [] => none
  | .char _ :: rest => encodeErrorFrom (position + 1) rest
  | .half h :: rest =>
    if h.isByte then encodeErrorFrom (position + 1) rest
    else some ⟨position, h, leadingHalves rest + 1⟩

/-- Why a text cannot be written in bytes. -/
def encodeError? : LooseText → Option EncodeError
  | whole _ => none
  | t => encodeErrorFrom 0 t.symbols

/-- Whether no name of a file can hold a text: it cannot be written in bytes, or holds a NUL. -/
def isImpossible : LooseText → Bool
  | whole s => s.toList.contains '\x00'
  | t => t.encodeError?.isSome || t.symbols.contains (.char '\x00')

/-- What is told of a text that no name of a file can hold. -/
def complaint (t : LooseText) : String :=
  match t.encodeError? with
  | some e => e.message
  | none => "embedded null byte"

end LooseText

end Stepboard
