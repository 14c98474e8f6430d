import Stepboard.Text.Blank
/-!
# Lines and tabs

A text is cut into lines at the characters of a class of line breaks, a carriage return followed
by a line feed being one break; a break at the very end opens no further line. Tabs are expanded
to stops every eight columns, the column starting again after each line feed or carriage return.
-/

namespace Stepboard.Text

/-- The distance between tab stops. -/
def tabWidth : Nat := 8

/-- Expands the tabs of a text whose first character stands in column `col`. -/
def expandTabsFrom : Nat → List Char → List Char
  | _, [] => []
  | col, c :: cs =>
    if c = '\t' then
      let gap := tabWidth - col % tabWidth
      List.replicate gap ' ' ++ expandTabsFrom (col + gap) cs
    else if c = '\n' ∨ c = '\r' then
      c :: expandTabsFrom 0 cs
    else
      c :: expandTabsFrom (col + 1) cs

/-- Expands the tabs of a text that starts a line. -/
def expandTabs (cs : List Char) : List Char :=
  expandTabsFrom 0 cs

/-- The line breaks of a text file: line feed and carriage return. -/
def isNewline (c : Char) : Bool :=
  c == '\n' || c == '\r'

/-- The line breaks of running text: also vertical tab, form feed, three information separators,
next line, and the two Unicode separators. -/
def isLineBreak (c : Char) : Bool :=
  let n := c.toNat
  (0x0A ≤ n && n ≤ 0x0D) || (0x1C ≤ n && n ≤ 0x1E) || n == 0x85 || n == 0x2028 || n == 0x2029

/-- Writes every line break of a text file as a line feed. -/
def unixNewlines : List Char → List Char
  | [] => []
  | '\r' :: '\n' :: cs => '\n' :: unixNewlines cs
  | c :: cs => (if c = '\r' then '\n' else c) :: unixNewlines cs

/-- Cuts a text into its lines, breaks dropped. -/
def splitLines (isBreak : Char → Bool) : List Char → List (List Char)
  | [] => []
  | '\r' :: '\n' :: cs => [] :: splitLines isBreak cs
  | c :: cs =>
    if isBreak c then [] :: splitLines isBreak cs
    else
      match splitLines isBreak cs with
      | [] => [[c]]
      | line :: lines => (c :: line) :: lines

/-- The lines of a file's text, tabs expanded line by line. -/
def fileLines (cs : List Char) : List String :=
  (splitLines isNewline cs).map fun line => String.ofList (expandTabs line)

/-- The lines of a text that came in one piece, tabs expanded before it is cut. -/
def textLines (s : String) : List String :=
  (splitLines isLineBreak (expandTabs s.toList)).map String.ofList

/-- One line of a listing: trailing line feeds dropped, tabs expanded. -/
def listingLine (s : String) : String :=
  String.ofList (expandTabs (trimEnd (· == '\n') s.toList))

end Stepboard.Text
