import Stepboard.Decimal.Shortest
import Stepboard.Text.Loose
/-!
# JSON values

Values as a settings file holds them, with integers of any size apart from double precision numbers,
texts that may hold halves of pairs, and the members of an object in the order in which their names
first came. Messages show a value in its own notation, which quotes texts as other messages do.
-/

namespace Stepboard.Json

/-- A JSON value. -/
inductive Value where
  | null
  | bool (b : Bool)
  | int (n : Int)
  | float (x : Binary64)
  | str (t : LooseText)
  | arr (items : List Value)
  | obj (members : List (LooseText × Value))

namespace Value

/-- Whether a value counts as true: zeros and all that is empty do not. -/
def isTrue : Value → Bool
  | null => false
  | bool b => b
  | int n => n != 0
  | float x => !x.isZero
  | str t => !t.isEmpty
  | arr items => !items.isEmpty
  | obj members => !members.isEmpty

theorem isTrue_str_iff {t : LooseText} : (str t).isTrue = true ↔ t ≠ "" := by
  simp [isTrue]

/-- The kind of a value, as messages name it. -/
def kind : Value → String
  | null => "NoneType"
  | bool _ => "bool"
  | int _ => "int"
  | float _ => "float"
  | str _ => "str"
  | arr _ => "list"
  | obj _ => "dict"

mutual

/-- A value as messages show it. -/
def describe : Value → String
  | null => "None"
  | bool b => if b then "True" else "False"
  | int n => Numeral.decimal n
  | float x => x.text
  | str t => t.quote
  | arr items => "[" ++ ", ".intercalate (describeItems items) ++ "]"
  | obj members => "\x7b" ++ ", ".intercalate (describeMembers members) ++ "\x7d"

def describeItems : List Value → List String
  | [] => []
  | item :: items => describe item :: describeItems items

def describeMembers : List (LooseText × Value) → List String
  | [] => []
  | (name, value) :: members => (name.quote ++ ": " ++ describe value) :: describeMembers members

end

/-- A value as a text: a text as it is, and other values as messages show them. -/
def asText : Value → LooseText
  | str t => t
  | value => value.describe

end Value

end Stepboard.Json
