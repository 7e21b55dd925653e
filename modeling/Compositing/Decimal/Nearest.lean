/-!
# The nearest binary number to a decimal

A decimal is read as the 64-bit float nearest to it; of two equally near ones the even one is taken.
What lies beyond the largest finite float is infinite.
-/

namespace Compositing.Decimal

/-- The natural number nearest to a quotient, the even one of two equally near ones. -/
def roundedQuotient (n d : Nat) : Nat :=
  let q := n / d
  let r := n % d
  if 2 * r < d ∨ (2 * r = d ∧ q % 2 = 0) then q else q + 1

/-- The greatest power of two that is at most the positive quotient `n / d`. -/
def quotientLog2 (n d : Nat) : Int :=
  let k : Int := (n.log2 : Int) - d.log2
  if n * Nat.pow 2 (-k).toNat < d * Nat.pow 2 k.toNat then k - 1 else k

/-- The bits of the float nearest to the positive quotient `n / d`. -/
def quotientBits (n d : Nat) : UInt64 :=
  let e := max (quotientLog2 n d - 52) (-1074)
  let significand := roundedQuotient (n * Nat.pow 2 (-e).toNat) (d * Nat.pow 2 e.toNat)
  -- A significand rounded up to the next power of two carries into the exponent by itself.
  let bits := (e + 1074).toNat * Nat.pow 2 52 + significand
  -- All that is too large has the bits of infinity.
  UInt64.ofNat (min bits (2047 * Nat.pow 2 52))

/-- The float nearest to `digits * 10 ^ exponent`. Decimals far outside the range of floats are not
multiplied out. -/
def nearestFloat (digits : Nat) (exponent : Int) : Float :=
  let magnitude := (Nat.toDigits 10 digits).length + exponent
  if digits = 0 ∨ magnitude < -400 then 0
  else if 400 < magnitude then Float.ofBits 0x7ff0000000000000
  else Float.ofBits (quotientBits (digits * Nat.pow 10 exponent.toNat) (Nat.pow 10 (-exponent).toNat))

end Compositing.Decimal
