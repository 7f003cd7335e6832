import Tactician.Text.Blank
import Tactician.Number.Binary

/-!
# Decimal integer numerals

An integer numeral is an optional sign followed by decimal digits, where a single underscore may
separate two digits; blanks around it are ignored and leading zeros are allowed.  A decimal digit
of any script counts as the ASCII digit of its value (`１２` is twelve).  The blanks skipped are the
Unicode white space but the four information separators `U+001C`–`U+001F`, which a numeral reader
takes for characters.
-/

namespace Tactician
namespace Text

/-- The first code point of each run of ten Unicode decimal digits, zero to nine (Unicode 14). -/
def decimalZeros : List Nat :=
  [0x30, 0x660, 0x6F0, 0x7C0, 0x966, 0x9E6, 0xA66, 0xAE6, 0xB66, 0xBE6, 0xC66, 0xCE6, 0xD66, 0xDE6,
   0xE50, 0xED0, 0xF20, 0x1040, 0x1090, 0x17E0, 0x1810, 0x1946, 0x19D0, 0x1A80, 0x1A90, 0x1B50,
   0x1BB0, 0x1C40, 0x1C50, 0xA620, 0xA8D0, 0xA900, 0xA9D0, 0xA9F0, 0xAA50, 0xABF0, 0xFF10, 0x104A0,
   0x10D30, 0x11066, 0x110F0, 0x11136, 0x111D0, 0x112F0, 0x11450, 0x114D0, 0x11650, 0x116C0,
   0x11730, 0x118E0, 0x11950, 0x11C50, 0x11D50, 0x11DA0, 0x16A60, 0x16AC0, 0x16B50, 0x1D7CE,
   0x1D7D8, 0x1D7E2, 0x1D7EC, 0x1D7F6, 0x1E140, 0x1E2F0, 0x1E950, 0x1FBF0]

/-- The value of a decimal digit of any script. -/
def decimalValue? (c : Char) : Option Nat :=
  (decimalZeros.find? fun z => z ≤ c.toNat && c.toNat < z + 10).map (c.toNat - ·)

/-- A character with a decimal digit of any script written as the ASCII digit of its value. -/
def asciiDigit (c : Char) : Char :=
  match decimalValue? c with
  | some d => Char.ofNat ('0'.toNat + d)
  | none => c

/-- Whether a numeral reader skips a character around the numeral: a blank other than an
information separator. -/
def isNumeralBlank (c : Char) : Bool := isBlank c && !(28 ≤ c.toNat && c.toNat ≤ 31)

/-- The characters of a numeral as its reader sees them: the skippable blanks at both ends gone
and every decimal digit in ASCII. -/
def numeralChars (s : String) : List Char :=
  let skip (cs : List Char) : List Char := cs.dropWhile isNumeralBlank
  ((skip (skip s.toList).reverse).reverse).map asciiDigit

/-- The value of a digit run with single underscores between digits, read from the left. -/
def digitsValue? : List Char → Option Nat
  | [] => none
  | c :: rest => if c.isDigit then go (c.toNat - '0'.toNat) rest else none
where
  /-- Read the rest after at least one digit, `acc` being the value so far. -/
  go (acc : Nat) : List Char → Option Nat
    | [] => some acc
    | '_' :: d :: rest => if d.isDigit then go (acc * 10 + (d.toNat - '0'.toNat)) rest else none
    | d :: rest => if d.isDigit then go (acc * 10 + (d.toNat - '0'.toNat)) rest else none

/-- Read an integer numeral. -/
def parseInt? (s : String) : Option Int :=
  match numeralChars s with
  | '-' :: rest => (digitsValue? rest).map fun n => -(n : Int)
  | '+' :: rest => (digitsValue? rest).map fun n => (n : Int)
  | cs => (digitsValue? cs).map fun n => (n : Int)

end Text
end Tactician

namespace Tactician
namespace Text

/-- Split off a digit run with single underscores between digits: the digits and the rest.
An empty run, or one ending in an underscore, gives no digits. -/
def digitRun (cs : List Char) : List Char × List Char :=
  match cs with
  | c :: rest => if c.isDigit then go [c] rest else ([], cs)
  | [] => ([], cs)
where
  /-- `acc` holds the digits read, reversed. -/
  go (acc : List Char) : List Char → List Char × List Char
    | '_' :: d :: rest => if d.isDigit then go (d :: acc) rest else (acc.reverse, '_' :: d :: rest)
    | d :: rest => if d.isDigit then go (d :: acc) rest else (acc.reverse, d :: rest)
    | [] => (acc.reverse, [])

/-- The value of a list of decimal digits. -/
def digitsToNat (ds : List Char) : Nat := ds.foldl (fun n c => n * 10 + (c.toNat - '0'.toNat)) 0

/-- Read a decimal number with optional sign, fraction and exponent (digit runs may use single
underscores between digits, of any script), or `inf`, `infinity`, `nan` in any case; the blanks a
numeral reader skips are ignored around it.  The result is the nearest double. -/
def parseFloat? (s : String) : Option Float :=
  let cs := numeralChars s
  let (negative, cs) := match cs with
    | '-' :: rest => (true, rest)
    | '+' :: rest => (false, rest)
    | _ => (false, cs)
  let word := (String.ofList cs).toLower
  if word == "inf" || word == "infinity" then some (Number.infinity negative)
  else if word == "nan" then some (0.0 / 0.0)
  else
    let (intDigits, rest) := digitRun cs
    let (fracDigits, rest, dot) : List Char × List Char × Bool := match rest with
      | '.' :: more =>
        let (fd, more') := digitRun more
        (fd, more', true)
      | _ => ([], rest, false)
    if intDigits.isEmpty && fracDigits.isEmpty then none
    else if dot && !fracDigits.isEmpty && rest.head? == some '_' then none
    else
      let expPart : Option Int := match rest with
        | [] => some 0
        | e :: more =>
          if e == 'e' || e == 'E' then
            let (sign, more) : Int × List Char := match more with
              | '-' :: m => (-1, m)
              | '+' :: m => (1, m)
              | _ => (1, more)
            let (ed, more') := digitRun more
            if ed.isEmpty || !more'.isEmpty then none else some (sign * (digitsToNat ed : Int))
          else none
      match expPart with
      | none => none
      | some e =>
        some (Number.ofDecimal negative (digitsToNat (intDigits ++ fracDigits))
          (e - fracDigits.length))

end Text
end Tactician
