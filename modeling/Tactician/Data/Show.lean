import Tactician.Data.Value
import Tactician.Text.Quoted

/-!
# Showing values

The conventional text of a loose value, as messages and labels print it: `None`, `True` and
`False`, integers in decimal, doubles in their shortest form, texts as they are (quoted inside
lists and records), lists in brackets and records in braces with quoted keys.
-/

namespace Tactician
namespace Value

mutual

/-- The quoted text of a value, as it appears inside a list or record. -/
def repr : Value → String
  | null => "None"
  | bool b => if b then "True" else "False"
  | int i => toString i
  | float f => Number.Float.shortText f
  | str s => Text.quote s
  | arr xs => "[" ++ String.intercalate ", " (reprItems xs) ++ "]"
  | obj fs => "\x7b" ++ String.intercalate ", " (reprFields fs) ++ "\x7d"

/-- The quoted texts of list items. -/
def reprItems : List Value → List String
  | [] => []
  | x :: rest => repr x :: reprItems rest

/-- The quoted texts of record fields. -/
def reprFields : List (String × Value) → List String
  | [] => []
  | (k, v) :: rest => (Text.quote k ++ ": " ++ repr v) :: reprFields rest

end

/-- The text of a value: a text as it is, anything else quoted. -/
def display : Value → String
  | str s => s
  | v => repr v

/-- The name of a value's type. -/
def typeName : Value → String
  | null => "NoneType"
  | bool _ => "bool"
  | int _ => "int"
  | float _ => "float"
  | str _ => "str"
  | arr _ => "list"
  | obj _ => "dict"

end Value
end Tactician
