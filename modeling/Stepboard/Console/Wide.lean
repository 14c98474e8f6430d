import Stepboard.Console
import Stepboard.Console.Emoji
import Stepboard.Console.Width
import Stepboard.Screen.Styled
import Stepboard.Text.Lines
/-!
# A wide console

A console without colours, on which every line has room. It puts pictures in place of their codes,
drops some control characters, and expands tabs by the columns that the text takes. A joiner takes
in the character after it, and a picture that is asked for in its coloured form may take a column
more. A tab is a blank at least, and as many more as bring the text since the tab before it to a
stop.
-/

namespace Stepboard.Console

/-- The character that makes one picture of those on its two sides. -/
def joiner : Char := '\u200d'

/-- The columns of a text. A coloured form in it may widen `last`, the last character before it that
takes columns, unless that was widened already. -/
def widthAfter : Option Char → List Char → Nat
  | _, [] => 0
  | last, c :: cs =>
    if c = joiner then
      match cs with
      | [] => 0
      | _ :: cs => widthAfter last cs
    else if c = Emoji.colouredForm then
      (if last.any isWidened then 1 else 0) + widthAfter none cs
    else
      columns c + widthAfter (if columns c = 0 then last else some c) cs

/-- The columns of a text. -/
def width (cs : List Char) : Nat :=
  widthAfter none cs

/-- A text with a tab after it: blanks up to a stop, but one at least. -/
def upToStop (cs : List Char) : List Char :=
  let beyond := width (cs ++ [' ']) % Text.tabWidth
  cs ++ ' ' :: List.replicate ((Text.tabWidth - beyond) % Text.tabWidth) ' '

/-- Joins the parts of a line that was cut at its tabs. -/
def joinTabbed : List (List Char) → List Char
  | [] => []
  | [part] => part
  | part :: parts => upToStop part ++ joinTabbed parts

/-- Expands the tabs of a text, line by line. -/
def expandTabs (cs : List Char) : List Char :=
  ['\n'].intercalate ((Text.splitAt '\n' cs).map fun line => joinTabbed (Text.splitAt '\t' line))

/-- The wide console. Of a complaint it shows no more than its heading and the record. -/
def wide : Console where
  print _ p :=
    let chars := shownChars (Emoji.replace p.text.toList)
    String.ofList (expandTabs chars) ++ "\n"
  complain channel r :=
    match channel with
    | .output => ""
    | .errors => "--- Logging error ---\n" ++ r.line.shown

end Stepboard.Console
