import Tactician.Number.Shortest

/-!
# A double in a text column

SQLite stores a double bound to a text column as the text of its fifteen significant digits,
rounded half up on the exact binary value, with trailing zeros dropped.  The text is positional
when the first digit stands between four places right of the point and fourteen places left of
it, and scientific otherwise; either way at least one digit follows the point (`1.0`, `1.0e+15`,
`1.5e-05`).  Infinities are written `Inf` and `-Inf`, both zeros `0.0`, and NaN is bound as no
value at all.
-/

namespace Tactician
namespace Number

/-- The positive `m · 2 ^ e` rounded half up to `p > 0` significant digits: a digit string without
trailing zeros and the power of ten of its last digit. -/
def roundedDigits (m : Nat) (e : Int) (p : Nat) : Nat × Int :=
  let q := decimalExponent m e + 1 - p
  -- `⌊y + 1/2⌋` for `y = m · 2 ^ e / 10 ^ q`, read off `⌊2y⌋`
  let r := (floorDiv (2 * m) e q + 1) / 2
  if r == Nat.pow 10 p then (1, q + p) else shortestDigits.strip r q p

/-- The text SQLite stores for a double bound to a text column, or `none` for NaN, which is bound
as null. -/
def Float.sqlText (x : Float) : Option String :=
  match decode x with
  | none => if x != x then none else some (if x > 0 then "Inf" else "-Inf")
  | some b =>
    if b.mantissa == 0 then some "0.0" else
    let sign := if b.negative then "-" else ""
    let (d, q) := roundedDigits b.mantissa b.exponent 15
    let ds := Nat.toDigits 10 d
    let n : Int := ds.length
    let point := q + n
    let body :=
      if point ≤ -4 || point > 15 then
        let exp := point - 1
        let mant := match ds with
          | c :: [] => String.ofList [c, '.', '0']
          | c :: rest => String.ofList (c :: '.' :: rest)
          | [] => "0.0"
        let expDigits := Nat.toDigits 10 exp.natAbs
        let expText := String.ofList (if expDigits.length < 2 then '0' :: expDigits else expDigits)
        mant ++ "e" ++ (if exp < 0 then "-" else "+") ++ expText
      else if point ≤ 0 then
        "0." ++ String.ofList (List.replicate (-point).toNat '0') ++ String.ofList ds
      else if point ≥ n then
        String.ofList ds ++ String.ofList (List.replicate (point - n).toNat '0') ++ ".0"
      else
        String.ofList (ds.take point.toNat) ++ "." ++ String.ofList (ds.drop point.toNat)
    some (sign ++ body)

end Number
end Tactician
