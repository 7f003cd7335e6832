/-!
# Quoted text

The quoted form of a text, as error messages show a value the user gave: the text between single
quotes, or between double quotes when it holds a single quote and no double quote.  The backslash
and the chosen quote are escaped with a backslash; tab, line feed and carriage return are written
`\t`, `\n`, `\r`; other characters that do not print are written as `\x` with two hexadecimal
digits below `U+0100`, `\u` with four below `U+10000`, and `\U` with eight otherwise.
-/

namespace Tactician
namespace Text

/-- Characters that do not print: controls, format characters, private use, and separators other
than the plain space. -/
def isUnprintable (c : Char) : Bool :=
  let n := c.toNat
  let within (lo hi : Nat) := lo ≤ n && n ≤ hi
  within 0 0x1F || within 0x7F 0xA0 || n == 0xAD || within 0x600 0x605 || n == 0x61C ||
    n == 0x6DD || n == 0x70F || within 0x890 0x891 || n == 0x8E2 || n == 0x1680 ||
    n == 0x180E || within 0x2000 0x200F || within 0x2028 0x202F || within 0x205F 0x2064 ||
    within 0x2066 0x206F || n == 0x3000 || within 0xD800 0xF8FF || n == 0xFEFF ||
    within 0xFFF9 0xFFFB || within 0xFFFE 0xFFFF || n == 0x110BD || n == 0x110CD ||
    within 0x13430 0x1343F || within 0x1BCA0 0x1BCA3 || within 0x1D173 0x1D17A ||
    n == 0xE0001 || within 0xE0020 0xE007F || within 0xF0000 0x10FFFF

/-- Lower-case hexadecimal digits of `n`, padded with zeros to `width`. -/
def hexDigits (width n : Nat) : String :=
  let ds := Nat.toDigits 16 n
  String.ofList (List.replicate (width - ds.length) '0' ++ ds)

/-- The escaped form of one character inside quotes `q`. -/
def escapeChar (q c : Char) : String :=
  if c == q || c == '\\' then String.ofList ['\\', c]
  else if c == '\t' then "\\t"
  else if c == '\n' then "\\n"
  else if c == '\r' then "\\r"
  else if isUnprintable c then
    let n := c.toNat
    if n < 0x100 then "\\x" ++ hexDigits 2 n
    else if n < 0x10000 then "\\u" ++ hexDigits 4 n
    else "\\U" ++ hexDigits 8 n
  else String.singleton c

/-- The quoted form of a text. -/
def quote (s : String) : String :=
  let q := if s.contains '\'' && !s.contains '"' then '"' else '\''
  String.singleton q ++ String.join (s.toList.map (escapeChar q)) ++ String.singleton q

end Text
end Tactician
