import Tactician.Number.Binary

/-!
# Fixed-point text

A double written with a fixed number of decimal places: the exact binary value rounded at that
place with ties to even, then the digits with a point before the last `places` of them.  The sign
is that of the double, so a negative value that rounds to zero keeps its minus.
-/

namespace Tactician
namespace Number

/-- The digits of `n` with a point before the last `places`, padded with zeros. -/
def pointed (n : Nat) (places : Nat) : String :=
  let ds := Nat.toDigits 10 n
  let padded := List.replicate (places + 1 - ds.length) '0' ++ ds
  let whole := padded.take (padded.length - places)
  let frac := padded.drop (padded.length - places)
  if places == 0 then String.ofList whole else String.ofList whole ++ "." ++ String.ofList frac

/-- A double with `places` decimals and an explicit sign (`+` for a non-negative value);
`+nan`, `+inf` and `-inf` for the special values. -/
def signedFixed (x : Float) (places : Nat) : String :=
  match decode x, roundToPlaces x places with
  | some b, some n => (if b.negative then "-" else "+") ++ pointed n.natAbs places
  | _, _ => if x != x then "+nan" else if x > 0 then "+inf" else "-inf"

/-- A double with `places` decimals and a minus sign when negative; `nan`, `inf` and `-inf` for
the special values. -/
def fixed (x : Float) (places : Nat) : String :=
  match decode x, roundToPlaces x places with
  | some b, some n => (if b.negative then "-" else "") ++ pointed n.natAbs places
  | _, _ => if x != x then "nan" else if x > 0 then "inf" else "-inf"

end Number
end Tactician
