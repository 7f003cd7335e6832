import Tactician.Data.Value
import Tactician.Text.Blank

/-!
# JSON text

Reading accepts the JSON grammar together with the words `NaN`, `Infinity` and `-Infinity`; a
number with a fraction or exponent is a double (the nearest one), any other number an integer of
any size; a repeated field name keeps its first place and takes the last value.  Writing produces
either one line or an indented layout; doubles take their shortest form, and a writer may escape
every character outside printable ASCII.
-/

namespace Tactician
namespace Json

/-- Skip JSON white space. -/
def skipWs : List Char → List Char
  | c :: rest => if c == ' ' || c == '\t' || c == '\n' || c == '\r' then skipWs rest else c :: rest
  | [] => []

/-- The value of a hexadecimal digit. -/
def hexValue? (c : Char) : Option Nat :=
  if '0' ≤ c && c ≤ '9' then some (c.toNat - '0'.toNat)
  else if 'a' ≤ c && c ≤ 'f' then some (c.toNat - 'a'.toNat + 10)
  else if 'A' ≤ c && c ≤ 'F' then some (c.toNat - 'A'.toNat + 10)
  else none

/-- Four hexadecimal digits. -/
def hex4? (cs : List Char) : Option (Nat × List Char) :=
  match cs with
  | a :: b :: c :: d :: rest =>
    match hexValue? a, hexValue? b, hexValue? c, hexValue? d with
    | some w, some x, some y, some z => some (((w * 16 + x) * 16 + y) * 16 + z, rest)
    | _, _, _, _ => none
  | _ => none

/-- Read the body of a string after its opening quote. -/
def readString (cs : List Char) : Option (String × List Char) :=
  go cs [] cs.length
where
  /-- `acc` holds the characters read, reversed. -/
  go : List Char → List Char → Nat → Option (String × List Char)
    | _, _, 0 => none
    | [], _, _ + 1 => none
    | '"' :: rest, acc, _ + 1 => some (String.ofList acc.reverse, rest)
    | '\\' :: e :: rest, acc, fuel + 1 =>
      match e with
      | '"' => go rest ('"' :: acc) fuel
      | '\\' => go rest ('\\' :: acc) fuel
      | '/' => go rest ('/' :: acc) fuel
      | 'b' => go rest ('\x08' :: acc) fuel
      | 'f' => go rest ('\x0c' :: acc) fuel
      | 'n' => go rest ('\n' :: acc) fuel
      | 'r' => go rest ('\r' :: acc) fuel
      | 't' => go rest ('\t' :: acc) fuel
      | 'u' =>
        match hex4? rest with
        | none => none
        | some (n, rest') =>
          if 0xD800 ≤ n && n < 0xDC00 then
            match rest' with
            | '\\' :: 'u' :: more =>
              match hex4? more with
              | some (m, rest'') =>
                if 0xDC00 ≤ m && m < 0xE000 then
                  go rest'' (Char.ofNat (0x10000 + (n - 0xD800) * 0x400 + (m - 0xDC00)) :: acc) fuel
                else go rest' ('�' :: acc) fuel
              | none => go rest' ('�' :: acc) fuel
            | _ => go rest' ('�' :: acc) fuel
          else if 0xDC00 ≤ n && n < 0xE000 then go rest' ('�' :: acc) fuel
          else go rest' (Char.ofNat n :: acc) fuel
      | _ => none
    | c :: rest, acc, fuel + 1 => if c.toNat < 0x20 then none else go rest (c :: acc) fuel

/-- Read a number: `-?(0|[1-9][0-9]*)(\.[0-9]+)?([eE][-+]?[0-9]+)?`. -/
def readNumber (cs : List Char) : Option (Value × List Char) :=
  let (negative, cs) := match cs with
    | '-' :: rest => (true, rest)
    | _ => (false, cs)
  let intDigits := cs.takeWhile Char.isDigit
  if intDigits.isEmpty then none
  else if intDigits.length > 1 && intDigits.head? == some '0' then
    -- a leading zero ends the integer part
    finish negative ['0'] (cs.drop 1)
  else finish negative intDigits (cs.drop intDigits.length)
where
  /-- The value of a digit list. -/
  digitsValue (ds : List Char) : Nat := ds.foldl (fun n c => n * 10 + (c.toNat - '0'.toNat)) 0
  /-- Read the optional fraction and exponent. -/
  finish (negative : Bool) (intDigits : List Char) (rest : List Char) : Option (Value × List Char) :=
    let (frac, rest) : List Char × List Char := match rest with
      | '.' :: more =>
        let ds := more.takeWhile Char.isDigit
        if ds.isEmpty then ([], rest) else (ds, more.drop ds.length)
      | _ => ([], rest)
    let hasFrac := !frac.isEmpty
    let (exp, hasExp, rest) : Int × Bool × List Char := match rest with
      | e :: more =>
        if e == 'e' || e == 'E' then
          let (sign, more') : Int × List Char := match more with
            | '-' :: m => (-1, m)
            | '+' :: m => (1, m)
            | _ => (1, more)
          let ds := more'.takeWhile Char.isDigit
          if ds.isEmpty then (0, false, rest)
          else (sign * (digitsValue ds : Int), true, more'.drop ds.length)
        else (0, false, rest)
      | [] => (0, false, rest)
    if hasFrac || hasExp then
      let mantissa := digitsValue (intDigits ++ frac)
      some (.float (Number.ofDecimal negative mantissa (exp - frac.length)), rest)
    else
      let n := digitsValue intDigits
      some (.int (if negative then -(n : Int) else n), rest)

/-- Read one value, with at most `fuel` levels of nesting and items. -/
def readValue (fuel : Nat) (cs : List Char) : Option (Value × List Char) :=
  match fuel with
  | 0 => none
  | fuel + 1 =>
    match skipWs cs with
    | 'n' :: 'u' :: 'l' :: 'l' :: rest => some (.null, rest)
    | 't' :: 'r' :: 'u' :: 'e' :: rest => some (.bool true, rest)
    | 'f' :: 'a' :: 'l' :: 's' :: 'e' :: rest => some (.bool false, rest)
    | 'N' :: 'a' :: 'N' :: rest => some (.float (0.0 / 0.0), rest)
    | 'I' :: 'n' :: 'f' :: 'i' :: 'n' :: 'i' :: 't' :: 'y' :: rest =>
      some (.float (Number.infinity false), rest)
    | '-' :: 'I' :: 'n' :: 'f' :: 'i' :: 'n' :: 'i' :: 't' :: 'y' :: rest =>
      some (.float (Number.infinity true), rest)
    | '"' :: rest => (readString rest).map fun (s, r) => (.str s, r)
    | '[' :: rest =>
      match skipWs rest with
      | ']' :: rest' => some (.arr [], rest')
      | _ => readItems fuel rest []
    | '\x7b' :: rest =>
      match skipWs rest with
      | '\x7d' :: rest' => some (.obj [], rest')
      | _ => readFields fuel rest []
    | cs' => readNumber cs'
where
  /-- Read list items after `[` or a comma; `acc` holds the items read, reversed. -/
  readItems (fuel : Nat) (cs : List Char) (acc : List Value) : Option (Value × List Char) :=
    match fuel with
    | 0 => none
    | fuel + 1 =>
      match readValue fuel cs with
      | none => none
      | some (v, rest) =>
        match skipWs rest with
        | ',' :: more => readItems fuel more (v :: acc)
        | ']' :: more => some (.arr (v :: acc).reverse, more)
        | _ => none
  /-- Read fields after `{` or a comma. -/
  readFields (fuel : Nat) (cs : List Char) (acc : List (String × Value)) :
      Option (Value × List Char) :=
    match fuel with
    | 0 => none
    | fuel + 1 =>
      match skipWs cs with
      | '"' :: rest =>
        match readString rest with
        | none => none
        | some (k, rest) =>
          match skipWs rest with
          | ':' :: more =>
            match readValue fuel more with
            | none => none
            | some (v, rest) =>
              let acc := Value.setField acc k v
              match skipWs rest with
              | ',' :: more => readFields fuel more acc
              | '\x7d' :: more => some (.obj acc, more)
              | _ => none
          | _ => none
      | _ => none

/-- Read a whole JSON text; white space may surround the value. -/
def parse? (s : String) : Option Value :=
  let cs := s.toList
  match readValue (cs.length + 2) cs with
  | some (v, rest) => if (skipWs rest).isEmpty then some v else none
  | none => none

/-- Whether a writer escapes every character outside printable ASCII. -/
structure Style where
  /-- Escape non-ASCII characters as `\u` sequences. -/
  asciiOnly : Bool
  /-- Indent nested items by this many spaces, or write one line. -/
  indent : Option Nat
  deriving Inhabited

/-- Four lower-case hexadecimal digits. -/
def hex4 (n : Nat) : String :=
  let ds := Nat.toDigits 16 n
  String.ofList (List.replicate (4 - ds.length) '0' ++ ds)

/-- A string in quotes with JSON escapes. -/
def quote (asciiOnly : Bool) (s : String) : String :=
  let esc (c : Char) : String :=
    if c == '"' then "\\\"" else if c == '\\' then "\\\\"
    else if c == '\n' then "\\n" else if c == '\r' then "\\r" else if c == '\t' then "\\t"
    else if c == '\x08' then "\\b" else if c == '\x0c' then "\\f"
    else if c.toNat < 0x20 then "\\u" ++ hex4 c.toNat
    else if asciiOnly && c.toNat ≥ 0x7F then
      if c.toNat ≥ 0x10000 then
        let v := c.toNat - 0x10000
        "\\u" ++ hex4 (0xD800 + v / 0x400) ++ "\\u" ++ hex4 (0xDC00 + v % 0x400)
      else "\\u" ++ hex4 c.toNat
    else String.singleton c
  "\"" ++ String.join (s.toList.map esc) ++ "\""

/-- The JSON text of a double: shortest form, `NaN`, `Infinity`, `-Infinity`. -/
def floatText (f : Float) : String :=
  if f != f then "NaN"
  else match Number.decode f with
    | none => if f > 0 then "Infinity" else "-Infinity"
    | some _ => Number.Float.shortText f

/-- The line break and indentation before an item at `depth`. -/
def lineBreak (style : Style) (depth : Nat) : String :=
  match style.indent with
  | some n => "\n" ++ String.ofList (List.replicate (n * depth) ' ')
  | none => ""

/-- The separator between items. -/
def separator (style : Style) : String := if style.indent.isSome then "," else ", "

mutual
/-- Write a value at a nesting depth. -/
def renderAt (style : Style) (depth : Nat) : Value → String
  | .null => "null"
  | .bool b => if b then "true" else "false"
  | .int i => toString i
  | .float f => floatText f
  | .str s => quote style.asciiOnly s
  | .arr [] => "[]"
  | .arr (x :: xs) =>
    "[" ++ String.intercalate (separator style) (renderItems style (depth + 1) (x :: xs)) ++
      lineBreak style depth ++ "]"
  | .obj [] => "\x7b\x7d"
  | .obj (f :: fs) =>
    "\x7b" ++ String.intercalate (separator style) (renderFields style (depth + 1) (f :: fs)) ++
      lineBreak style depth ++ "\x7d"

/-- Write list items, each on its own line when indenting. -/
def renderItems (style : Style) (depth : Nat) : List Value → List String
  | [] => []
  | x :: xs => (lineBreak style depth ++ renderAt style depth x) :: renderItems style depth xs

/-- Write record fields, each on its own line when indenting. -/
def renderFields (style : Style) (depth : Nat) : List (String × Value) → List String
  | [] => []
  | (k, x) :: fs =>
    (lineBreak style depth ++ quote style.asciiOnly k ++ ": " ++ renderAt style depth x) ::
      renderFields style depth fs
end

/-- Write a value. -/
def render (style : Style) (v : Value) : String := renderAt style 0 v

/-- One-line JSON with every character outside printable ASCII escaped. -/
def compact (v : Value) : String := render ⟨true, none⟩ v

end Json
end Tactician
