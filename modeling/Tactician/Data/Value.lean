import Tactician.Number.Shortest

/-!
# Loosely typed values

Settings files, puzzle records and tool arguments arrive as JSON-like data whose fields may have
any type.  A `Value` is such a datum: null, a boolean, an integer of any size, a double, a text,
a list, or a record of named fields in the order first given (a later field of the same name
replaces the earlier value in place).
-/

namespace Tactician

/-- A loosely typed datum. -/
inductive Value where
  /-- The absent value. -/
  | null
  /-- A boolean. -/
  | bool (b : Bool)
  /-- An integer of any size. -/
  | int (i : Int)
  /-- A double. -/
  | float (f : Float)
  /-- A text. -/
  | str (s : String)
  /-- A list. -/
  | arr (xs : List Value)
  /-- Named fields in order. -/
  | obj (fields : List (String × Value))
  deriving Inhabited

namespace Value

/-- The value of a field of a record; `none` for a missing field or a non-record. -/
def get? (v : Value) (k : String) : Option Value :=
  match v with
  | obj fs => (fs.find? (·.1 == k)).map (·.2)
  | _ => none

/-- The value of a field, a missing one counting as null. -/
def field (v : Value) (k : String) : Value := (v.get? k).getD null

/-- Whether a record has a field. -/
def has (v : Value) (k : String) : Bool := (v.get? k).isSome

/-- Set a field of a field list: replaced in place, or added at the end. -/
def setField (fs : List (String × Value)) (k : String) (x : Value) : List (String × Value) :=
  if fs.any (·.1 == k) then fs.map fun kv => if kv.1 == k then (k, x) else kv
  else fs ++ [(k, x)]

/-- Set a field of a record; other values are left alone. -/
def set (v : Value) (k : String) (x : Value) : Value :=
  match v with
  | obj fs => obj (setField fs k x)
  | _ => v

/-- Whether the value is null. -/
def isNull : Value → Bool
  | null => true
  | _ => false

/-- The text, if the value is one. -/
def str? : Value → Option String
  | str s => some s
  | _ => none

/-- The integer, if the value is one (booleans are not). -/
def int? : Value → Option Int
  | int i => some i
  | _ => none

/-- The boolean, if the value is one. -/
def bool? : Value → Option Bool
  | bool b => some b
  | _ => none

/-- The list, if the value is one. -/
def arr? : Value → Option (List Value)
  | arr xs => some xs
  | _ => none

/-- The fields, if the value is a record. -/
def obj? : Value → Option (List (String × Value))
  | obj fs => some fs
  | _ => none

/-- Truth as the loose data sees it: null, `false`, zero, the empty text, list and record are
false; everything else is true. -/
def truthy : Value → Bool
  | null => false
  | bool b => b
  | int i => i != 0
  | float f => f != 0.0
  | str s => !s.isEmpty
  | arr xs => !xs.isEmpty
  | obj fs => !fs.isEmpty

/-- An optional text as a value. -/
def ofOptStr : Option String → Value
  | some s => str s
  | none => null

/-- An optional integer as a value. -/
def ofOptInt : Option Int → Value
  | some i => int i
  | none => null

/-- A list of texts as a value. -/
def ofStrs (xs : List String) : Value := arr (xs.map str)

end Value

end Tactician
