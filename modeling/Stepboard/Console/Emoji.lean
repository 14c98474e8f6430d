import Stepboard.Console.Emoji.Faces
import Stepboard.Console.Emoji.Flags
import Stepboard.Console.Emoji.People
import Stepboard.Console.Emoji.Pictographs
import Stepboard.Console.Emoji.Symbols
import Stepboard.Text.Blank
import Stepboard.Text.Split
/-!
# Emoji codes

A name between two colons stands for a picture, as in `:smile:`. The name may end in `-emoji` or
`-text`, which asks for the coloured or the plain form of the picture. A name that no picture has
stays as it is, colons included.
-/

namespace Stepboard.Console.Emoji

/-- The pictures with their names. -/
def pictures : List (String × List String) :=
  symbols ++ framedLetters ++ nature ++ creatures ++ things ++ tools ++ faces ++ traffic ++ later ++
    groups

/-- The pictures that take a tone of the skin, with their names. -/
def tonedPictures : List (String × List String) :=
  people ++ activities

/-- The picture with a name in a table. -/
def find? (table : List (String × List String)) (name : String) : Option String :=
  (table.find? fun entry => entry.2.contains name).map (·.1)

/-- The tones of the skin, by what follows the name of a picture. -/
def tones : List (String × Char) :=
  [("_light_skin_tone", '🏻'), ("_medium-light_skin_tone", '🏼'), ("_medium_skin_tone", '🏽'),
   ("_medium-dark_skin_tone", '🏾'), ("_dark_skin_tone", '🏿')]

/-- The characters that ask for the plain and the coloured form of what they follow. -/
def plainForm : Char := '\ufe0e'
def colouredForm : Char := '\ufe0f'

/-- Gives a tone to the first character of a picture, where it replaces a coloured form. -/
def withTone (tone : Char) : List Char → List Char
  | [] => []
  | c :: cs => c :: tone :: (if cs.head? == some colouredForm then cs.drop 1 else cs)

/-- What is left of a text before an ending. -/
def before? (ending cs : List Char) : Option (List Char) :=
  if ending.isSuffixOf cs then some (cs.take (cs.length - ending.length)) else none

/-- The picture that a name with a tone stands for. -/
def toned? (name : List Char) : Option (List Char) :=
  tones.findSome? fun (ending, tone) =>
    (before? ending.toList name).bind fun bare =>
      (find? tonedPictures (String.ofList bare)).map fun picture => withTone tone picture.toList

/-- The letter of a flag for a letter from a to z, or for a capital. -/
def flagLetter? (c : Char) : Option Char :=
  if 'a' ≤ c ∧ c ≤ 'z' then some (Char.ofNat (0x1F1E6 + (c.toNat - 'a'.toNat)))
  else if 'A' ≤ c ∧ c ≤ 'Z' then some (Char.ofNat (0x1F1E6 + (c.toNat - 'A'.toNat)))
  else none

/-- What is left of a text after a beginning. -/
def after? (beginning cs : List Char) : Option (List Char) :=
  if beginning.isPrefixOf cs then some (cs.drop beginning.length) else none

/-- The letters of a flag that a name stands for: those of a country, or one by itself. -/
def flag? (name : List Char) : Option (List Char) :=
  let country := (after? "flag_for_".toList name).getD name
  let letter := (after? "regional_indicator_symbol_letter_".toList name).or
    (after? "regional_indicator_".toList name)
  match (otherFlags.lookup (String.ofList name)).or (countries.lookup (String.ofList country)),
      letter with
  | some letters, _ => some (letters.toList.filterMap flagLetter?)
  | none, some [c] => if c.isLower then (flagLetter? c).map ([·]) else none
  | none, _ => none

/-- The picture that a name stands for. -/
def picture? (name : List Char) : Option (List Char) :=
  match (find? pictures (String.ofList name)).or (find? tonedPictures (String.ofList name)) with
  | some picture => some picture.toList
  | none => (flag? name).or (toned? name)

/-- The small letter of a letter that a name may hold: those from A to Z, the accented ones, and the
signs for kelvin and angstrom. -/
def small (c : Char) : Char :=
  let n := c.toNat
  if n = 0x212A then 'k'
  else if n = 0x212B then 'å'
  else if 0xC0 ≤ n && n ≤ 0xDE && n != 0xD7 then Char.ofNat (n + 0x20)
  else c.toLower

/-- A code without its ending, and the form that the ending asks for. -/
def splitForm (code : List Char) : List Char × List Char :=
  match before? "-emoji".toList code, before? "-text".toList code with
  | some name, _ => (name, [colouredForm])
  | none, some name => (name, [plainForm])
  | none, none => (code, [])

/-- What stands in place of a code and its colons. -/
def shown (code : List Char) : List Char :=
  let (name, form) := splitForm code
  match picture? (name.map small) with
  | some picture => picture ++ form
  | none => ':' :: code ++ [':']

/-- Joins the parts of a text that was cut at its colons, those between two colons as codes unless
they hold a blank. A colon belongs to one code at most, the first that it can. -/
def joinParts : List (List Char) → List Char
  | [] => []
  | [text] => text
  | [text, rest] => text ++ ':' :: rest
  | text :: code :: next :: parts =>
    if code.any Text.isBlank then text ++ ':' :: joinParts (code :: next :: parts)
    else text ++ shown code ++ joinParts (next :: parts)

/-- Replaces the codes of a text by their pictures. -/
def replace (cs : List Char) : List Char :=
  joinParts (Text.splitAt ':' cs)

end Stepboard.Console.Emoji
