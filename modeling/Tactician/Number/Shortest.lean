import Tactician.Number.Binary

/-!
# The shortest decimal that reads back

A finite non-zero double `x` is written with the fewest significant digits whose decimal value
lies in the interval of reals that round to `x` (ends included when the mantissa is even); of two
candidates with that many digits, the nearer to `x` is taken.  The text then follows the common
convention for such "shortest" forms: positional when the decimal point falls within sixteen
places left of the first digit and four places right of it, scientific (`1e+16`, `1.5e-05`)
otherwise, with `.0` after a whole number.
-/

namespace Tactician
namespace Number

/-- Compare `d · 10 ^ q` with `n · 2 ^ f` exactly. -/
def compareDecBin (d : Nat) (q : Int) (n : Nat) (f : Int) : Ordering :=
  let lhs := d * Nat.pow 10 (max q 0).toNat * Nat.pow 2 (max (-f) 0).toNat
  let rhs := n * Nat.pow 2 (max f 0).toNat * Nat.pow 10 (max (-q) 0).toNat
  compare lhs rhs

/-- `⌊m · 2 ^ e / 10 ^ q⌋`. -/
def floorDiv (m : Nat) (e q : Int) : Nat :=
  (m * Nat.pow 2 (max e 0).toNat * Nat.pow 10 (max (-q) 0).toNat) /
    (Nat.pow 2 (max (-e) 0).toNat * Nat.pow 10 (max q 0).toNat)

/-- The power of ten just below: the largest `E` with `10 ^ E ≤ m · 2 ^ e` (`m > 0`). -/
def decimalExponent (m : Nat) (e : Int) : Int :=
  let estimate : Int := (((Nat.log2 m : Int) + e) * 30103).fdiv 100000
  let below (k : Int) : Bool := compareDecBin 1 k m e != .gt
  if !below estimate then estimate - 1
  else if below (estimate + 1) then
    (if below (estimate + 2) then estimate + 2 else estimate + 1)
  else estimate

/-- The shortest digits of a positive finite double `m · 2 ^ e`: a digit string without
trailing zeros and the power of ten of its last digit. -/
def shortestDigits (m : Nat) (e : Int) : Nat × Int :=
  -- the rounding interval, as numerators over 2 ^ (e - 2)
  let lowerGapNarrow := m == Nat.pow 2 52 && e > -1074
  let lo := if lowerGapNarrow then 4 * m - 1 else 4 * m - 2
  let hi := 4 * m + 2
  let closed := m % 2 == 0
  let inside (d : Nat) (q : Int) : Bool :=
    let a := compareDecBin d q lo (e - 2)
    let b := compareDecBin d q hi (e - 2)
    (a == .gt || (closed && a == .eq)) && (b == .lt || (closed && b == .eq))
  let top := decimalExponent m e
  let candidates := (List.range 17).filterMap fun (i : Nat) =>
    let q := top - (i : Int)
    let d := floorDiv m e q
    let down := if inside d q then some d else none
    let up := if inside (d + 1) q then some (d + 1) else none
    match down, up with
    | some a, some b =>
      -- the nearer one, comparing 2·x with a + b on the grid
      match compareDecBin (a + b) q (8 * m) (e - 2) with
      | .gt => some (a, q)
      | .lt => some (b, q)
      | .eq => some (if a % 2 == 0 then a else b, q)
    | some a, none => some (a, q)
    | none, some b => some (b, q)
    | none, none => none
  match candidates.head? with
  | some (d, q) => strip d q 20
  | none => strip (floorDiv m e (top - 16)) (top - 16) 20
where
  /-- Remove trailing zeros. -/
  strip (d : Nat) (q : Int) : Nat → Nat × Int
    | 0 => (d, q)
    | fuel + 1 => if d != 0 && d % 10 == 0 then strip (d / 10) (q + 1) fuel else (d, q)

/-- The conventional text of a double: shortest digits, positional or scientific, `nan`,
`inf`, `-inf`, `0.0`, `-0.0`. -/
def Float.shortText (x : Float) : String :=
  match decode x with
  | none => if x != x then "nan" else if x > 0 then "inf" else "-inf"
  | some b =>
    let sign := if b.negative then "-" else ""
    if b.mantissa == 0 then sign ++ "0.0" else
    let (d, q) := shortestDigits b.mantissa b.exponent
    let ds := Nat.toDigits 10 d
    let n : Int := ds.length
    let point := q + n
    let body :=
      if point ≤ -4 || point > 16 then
        let exp := point - 1
        let mant := match ds with
          | [c] => String.singleton c
          | c :: rest => String.ofList (c :: '.' :: rest)
          | [] => "0"
        let expDigits := Nat.toDigits 10 exp.natAbs
        let expText := String.ofList (if expDigits.length < 2 then '0' :: expDigits else expDigits)
        mant ++ "e" ++ (if exp < 0 then "-" else "+") ++ expText
      else if point ≤ 0 then
        "0." ++ String.ofList (List.replicate (-point).toNat '0') ++ String.ofList ds
      else if point ≥ n then
        String.ofList ds ++ String.ofList (List.replicate (point - n).toNat '0') ++ ".0"
      else
        String.ofList (ds.take point.toNat) ++ "." ++ String.ofList (ds.drop point.toNat)
    sign ++ body

end Number
end Tactician
