/-!
# Styled text

A text with styled spans, built by appending. Appending drops the control characters that would
move the cursor, and adds a span wherever a style is given; an empty text adds nothing at all.
-/

namespace Stepboard

/-- A style by its name; the empty name is no style. -/
abbrev Style := String

/-- A styled range of characters, the end excluded. -/
structure Span where
  start : Nat
  stop : Nat
  style : Style
  deriving DecidableEq, Repr

/-- Whether a character is dropped from shown text: bell, backspace, vertical tab, form feed and
carriage return. -/
def isDropped (c : Char) : Bool :=
  let n := c.toNat
  n == 7 || n == 8 || n == 0x0B || n == 0x0C || n == 0x0D

/-- A text without the characters that are dropped from shown text. -/
def shownChars (cs : List Char) : List Char :=
  cs.filter fun c => !isDropped c

/-- A text with a style of its own and styled spans. -/
structure StyledText where
  plain : List Char := []
  style : Style := ""
  spans : List Span := []
  deriving DecidableEq, Repr

namespace StyledText

/-- A text in one style. -/
def ofString (s : String) (style : Style) : StyledText :=
  { plain := shownChars s.toList, style }

/-- The text without its styles. -/
def text (t : StyledText) : String :=
  String.ofList t.plain

/-- Appends characters in a style. -/
def appendChars (t : StyledText) (cs : List Char) (style : Style) : StyledText :=
  if cs.isEmpty then t
  else
    let shown := shownChars cs
    { t with
      plain := t.plain ++ shown
      spans :=
        if style.isEmpty then t.spans
        else t.spans ++ [⟨t.plain.length, t.plain.length + shown.length, style⟩] }

/-- Appends a text in a style. -/
def append (t : StyledText) (s : String) (style : Style := "") : StyledText :=
  t.appendChars s.toList style

end StyledText

end Stepboard
