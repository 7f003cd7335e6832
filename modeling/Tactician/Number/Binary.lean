/-!
# Doubles as exact binary fractions

A finite double is `± mantissa · 2 ^ exponent` with a 53-bit mantissa (fewer bits below the
normal range).  This file decodes a double into that form, builds the double nearest to an exact
ratio of integers (ties to the even mantissa, overflow to infinity), truncates a double to an
integer, and rounds a double to a number of decimal places (ties to even, judged on its exact
binary value).
-/

namespace Tactician
namespace Number

/-- A finite double as sign, integer mantissa and power of two. -/
structure Binary where
  /-- Whether the sign bit is set. -/
  negative : Bool
  /-- The integer mantissa. -/
  mantissa : Nat
  /-- The power of two it is scaled by. -/
  exponent : Int
  deriving Repr

/-- Decode a double; `none` for infinities and NaN. -/
def decode (x : Float) : Option Binary :=
  let bits : Nat := x.toBits.toNat
  let negative := bits / Nat.pow 2 63 == 1
  let e : Nat := (bits / Nat.pow 2 52) % Nat.pow 2 11
  let f : Nat := bits % Nat.pow 2 52
  if e == 2047 then none
  else if e == 0 then some ⟨negative, f, -1074⟩
  else some ⟨negative, f + Nat.pow 2 52, (e : Int) - 1075⟩

/-- `n · 2 ^ k` for a signed `k`, as a ratio of naturals. -/
def scaled (n : Nat) (k : Int) : Nat × Nat :=
  if 0 ≤ k then (n * Nat.pow 2 k.toNat, 1) else (n, Nat.pow 2 (-k).toNat)

/-- Round `num / den` to the nearest natural, a tie going to the even one. -/
def roundHalfEven (num den : Nat) : Nat :=
  let q := num / den
  let r := num % den
  if 2 * r > den then q + 1
  else if 2 * r < den then q
  else if q % 2 == 0 then q else q + 1

/-- The bit pattern of a positive double with mantissa `q` (below `2 ^ 53`) at power `e`. -/
def bitsOf (q : Nat) (e : Int) : Nat :=
  if q < Nat.pow 2 52 then q else ((e + 1075).toNat * Nat.pow 2 52) + (q - Nat.pow 2 52)

/-- The double nearest to `num / den` (`den > 0`), with the given sign. -/
def ofRatio (negative : Bool) (num den : Nat) : Float :=
  let signBit := if negative then Nat.pow 2 63 else 0
  if num == 0 || den == 0 then Float.ofBits (UInt64.ofNat signBit) else
  -- choose e so that num / den / 2^e lies in [2^52, 2^53), but not below 2^-1074
  let guess : Int := (Nat.log2 num : Int) - Nat.log2 den - 52
  let fits (e : Int) : Bool :=
    let (a, b) := scaled num (-e)
    a / (b * den) < Nat.pow 2 53
  let e := if fits (guess - 1) then guess - 1 else if fits guess then guess else guess + 1
  let e := max e (-1074)
  let (a, b) := scaled num (-e)
  let q := roundHalfEven a (b * den)
  let (q, e) := if q == Nat.pow 2 53 then (Nat.pow 2 52, e + 1) else (q, e)
  if e > 971 then Float.ofBits (UInt64.ofNat (signBit + 2047 * Nat.pow 2 52))
  else Float.ofBits (UInt64.ofNat (signBit + bitsOf q e))

/-- Infinity with the given sign. -/
def infinity (negative : Bool) : Float :=
  Float.ofBits (UInt64.ofNat ((if negative then Nat.pow 2 63 else 0) + 2047 * Nat.pow 2 52))

/-- The double nearest to a decimal `digits · 10 ^ exp10`; exponents far out of range give
infinity or zero directly. -/
def ofDecimal (negative : Bool) (digits : Nat) (exp10 : Int) : Float :=
  let size : Int := (Nat.toDigits 10 digits).length
  if digits == 0 then ofRatio negative 0 1
  else if exp10 + size > 330 then infinity negative
  else if exp10 + size < -400 then ofRatio negative 0 1
  else if 0 ≤ exp10 then ofRatio negative (digits * Nat.pow 10 exp10.toNat) 1
  else ofRatio negative digits (Nat.pow 10 (-exp10).toNat)

/-- The double nearest to an integer. -/
def ofInt (i : Int) : Float := ofRatio (i < 0) i.natAbs 1

/-- A finite double truncated toward zero; `none` for infinities and NaN. -/
def truncate (x : Float) : Option Int :=
  (decode x).map fun b =>
    let magnitude : Nat :=
      if 0 ≤ b.exponent then b.mantissa * Nat.pow 2 b.exponent.toNat
      else b.mantissa / Nat.pow 2 (-b.exponent).toNat
    if b.negative then -(magnitude : Int) else magnitude

/-- A finite double rounded to `places` decimal places, as the integer count of `10 ^ -places`
units (ties to even on the exact value). -/
def roundToPlaces (x : Float) (places : Nat) : Option Int :=
  (decode x).map fun b =>
    let (num, den) := scaled (b.mantissa * Nat.pow 10 places) b.exponent
    let n := roundHalfEven num den
    if b.negative then -(n : Int) else n

/-- A double rounded to `places` decimal places, as the double nearest to the rounded decimal;
infinities and NaN are kept. -/
def roundFloat (x : Float) (places : Nat) : Float :=
  match roundToPlaces x places with
  | some n =>
    if n == 0 then x * 0.0 else ofRatio (n < 0) n.natAbs (Nat.pow 10 places)
  | none => x

end Number
end Tactician
