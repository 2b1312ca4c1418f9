import TableReplica.Real.Basic

/-!
# The nearest real

Rounding of exact fractions to the nearest 64-bit real, a tie going to the even significand. All
arithmetic on reals in this library (products, quotients, reading a decimal) is one exact
computation on natural numbers followed by one such rounding.
-/

namespace TableReplica

/-- The quotient `num / den` rounded to the nearest natural number, a half going to the even one. -/
def divNearestEven (num den : Nat) : Nat :=
  let below := num / den
  match compare (2 * (num % den)) den with
  | .lt => below
  | .eq => below + below % 2
  | .gt => below + 1

/-- A number with so many zeros behind its decimal digits. -/
def appendZeros (n zeros : Nat) : Nat := n * Nat.pow 10 zeros

namespace Real64

/-- For positive `num` and `den`, the `e` with `2 ^ e ≤ num / den < 2 ^ (e + 1)`. -/
def binaryExponent (num den : Nat) : Int :=
  let e : Int := (num.log2 : Int) - den.log2
  if den <<< e.toNat ≤ num <<< (-e).toNat then e else e - 1

/-- The magnitude of the real nearest to `num / den`. The last place of the result is `2 ^ q`, with
`q` large enough that the significand has at most 53 bits and no less than the least exponent. The
significand is added to the scaled exponent, so that a carry out of it raises the exponent; what
would lie above the greatest finite real is infinite. -/
def nearestMagnitude (num den : Nat) : Nat :=
  if num = 0 then 0 else
    let q := max (binaryExponent num den - 52) (-1074)
    let significand := divNearestEven (num <<< (-q).toNat) (den <<< q.toNat)
    min ((q + 1074).toNat * leadingBit + significand) infiniteMagnitude

/-- The real nearest to `± num / den`. -/
def ofRatio (negative : Bool) (num den : Nat) : Real64 :=
  ofMagnitude negative (nearestMagnitude num den)

/-- The real nearest to a natural number. -/
def ofNat (n : Nat) : Real64 := ofRatio false n 1

/-- The real nearest to an integer. -/
def ofInt (i : Int) : Real64 := ofRatio (i < 0) i.natAbs 1

/-- The magnitude of a finite real as a fraction. -/
def ratio (r : Real64) : Nat × Nat :=
  (r.significand <<< r.exponent.toNat, 1 <<< (-r.exponent).toNat)

/-- The product of two finite reals. -/
def mul (a b : Real64) : Real64 :=
  let (m, p) := a.ratio
  let (n, q) := b.ratio
  ofRatio (a.isNegative != b.isNegative) (m * n) (p * q)

/-- The quotient of two finite reals, the second of which is not zero. -/
def div (a b : Real64) : Real64 :=
  let (m, p) := a.ratio
  let (n, q) := b.ratio
  ofRatio (a.isNegative != b.isNegative) (m * q) (p * n)

/-- The real nearest to `± digits * 10 ^ exponent`. Numbers that are clearly beyond the greatest
real are infinite, and those clearly below the least one are zero, without any calculation;
`0.30103` is the decimal logarithm of two. -/
def ofScientific (negative : Bool) (digits : Nat) (exponent : Int) : Real64 :=
  let top := exponent + (digits.log2 * 30103 / 100000 : Nat)
  if digits = 0 ∨ top < -330 then ofMagnitude negative 0
  else if 310 < top then ofMagnitude negative infiniteMagnitude
  else ofRatio negative (appendZeros digits exponent.toNat) (appendZeros 1 (-exponent).toNat)

end Real64

end TableReplica
