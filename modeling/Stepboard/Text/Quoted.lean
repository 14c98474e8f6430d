import Stepboard.Text.Numeral
import Stepboard.Text.Printable
/-!
# Quoted text

How messages quote a text. The quotes are single, or double where the text holds a single quote
and no double one; the quote in use and the backslash are escaped, and characters that would not
show are written by their code.
-/

namespace Stepboard.Text

/-- The quote that a text is put in. -/
def quoteFor (cs : List Char) : Char :=
  if cs.contains '\x27' && !cs.contains '"' then '"' else '\x27'

/-- The shortest of the code escapes that fits a character. -/
def codeEscape (c : Char) : List Char :=
  let n := c.toNat
  if n < 0x100 then '\\' :: 'x' :: Numeral.fixed 16 2 n
  else if n < 0x10000 then '\\' :: 'u' :: Numeral.fixed 16 4 n
  else '\\' :: 'U' :: Numeral.fixed 16 8 n

/-- A character as it stands between quotes. -/
def escapeChar (quote c : Char) : List Char :=
  if c = quote ∨ c = '\\' then ['\\', c]
  else if c = '\n' then ['\\', 'n']
  else if c = '\r' then ['\\', 'r']
  else if c = '\t' then ['\\', 't']
  else if isPrintable c then [c]
  else codeEscape c

/-- A text in quotes. -/
def quote (s : String) : String :=
  let q := quoteFor s.toList
  String.ofList (q :: s.toList.flatMap (escapeChar q) ++ [q])

end Stepboard.Text
