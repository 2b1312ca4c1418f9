import TableReplica.Real.Nearest

/-!
# Decimal text of reals

A finite real is written with the fewest decimal digits that read back as the same real; of the
decimals of that length the nearest one is taken. `Decimal.shortest` finds the digits in exact
arithmetic on the interval of numbers that round to the real. Two layouts write them: a document
layout, which always shows that the number is a real, and a plain layout without exponents. They
differ also in which of two decimals they take if both are equally near.
-/

namespace TableReplica

/-- The number `digits * 10 ^ exponent`. -/
structure Decimal where
  digits : Nat
  exponent : Int
deriving DecidableEq, Repr

/-- Which of two decimals that are equally near is taken. -/
inductive Tie where
  /-- The one whose last digit is even. -/
  | even
  /-- The one that is farther away from zero. -/
  | away
deriving DecidableEq

/-- The digits taken from a tie between some digits and their successor. -/
def Tie.pick (tie : Tie) (below : Nat) : Nat :=
  match tie with
  | .even => below + below % 2
  | .away => below + 1

namespace Decimal

/-- For positive `num` and `den`, the `k` with `10 ^ k ≤ num / den < 10 ^ (k + 1)`. The binary
exponent gives it up to one, as `0.30103` is the decimal logarithm of two. -/
def decimalExponent (num den : Nat) : Int :=
  let guess := (Real64.binaryExponent num den * 30103).fdiv 100000
  let reaches (k : Int) : Bool := appendZeros den k.toNat ≤ appendZeros num (-k).toNat
  if reaches (guess + 1) then guess + 1 else if reaches guess then guess else guess - 1

/-- The decimal on the grid `10 ^ k` nearest to `num / den` among those that round to it: the real
lies between two points of the grid, and a point is accepted if it lies within `low / den` below
and `high / den` above the real, the ends included iff `closed`. -/
def onGrid? (tie : Tie) (num den low high : Nat) (closed : Bool) (k : Int) : Option Nat :=
  let unit := appendZeros den k.toNat
  let scaled := appendZeros num (-k).toNat
  let below := scaled / unit
  let toBelow := scaled % unit
  let toAbove := unit - toBelow
  let within (distance room : Nat) : Bool :=
    let room := appendZeros room (-k).toNat
    if closed then distance ≤ room else distance < room
  let belowFits := below != 0 && within toBelow low
  let aboveFits := within toAbove high
  match belowFits, aboveFits with
  | false, false => none
  | true, false => some below
  | false, true => some (below + 1)
  | true, true =>
    match compare toBelow toAbove with
    | .lt => some below
    | .eq => some (tie.pick below)
    | .gt => some (below + 1)

/-- The same number without zeros at the end of its digits. -/
def trim (d : Decimal) : Nat → Decimal
  | 0 => d
  | fuel + 1 =>
    if d.digits % 10 = 0 ∧ d.digits ≠ 0 then trim ⟨d.digits / 10, d.exponent + 1⟩ fuel else d

/-- The shortest decimal that reads back as a finite positive real, and of those the nearest one.
The numbers that round to the real reach half a unit of its last place to either side, or a quarter
below it if the real is the least one of its exponent. They include the ends of that interval if the
significand is even. Seventeen digits always suffice. -/
def shortest (tie : Tie) (r : Real64) : Decimal :=
  let (num, den) := r.ratio
  let unit := 1 <<< r.exponent.toNat
  let edge := r.magnitude % Real64.leadingBit = 0 ∧ 2 * Real64.leadingBit ≤ r.magnitude
  let closed := r.significand % 2 == 0
  let top := decimalExponent num den
  let (num, den, low, high) :=
    (4 * num, 4 * den, (if edge then 1 else 2) * unit, 2 * unit)
  let candidate? (places : Nat) : Option Decimal :=
    let k := top - places
    (onGrid? tie num den low high closed k).map fun digits => ⟨digits, k⟩
  match (List.range 17).findSome? candidate? with
  | some d => d.trim 17
  | none => ⟨r.significand, r.exponent⟩

end Decimal

namespace Real64

/-- The digits of a natural number as characters. -/
def digitChars (n : Nat) : List Char := Nat.toDigits 10 n

/-- Digits `digits` with the point behind the first `whole` of them; zeros are filled in where the
point lies outside the digits. -/
def positional (digits : List Char) (whole : Int) (fraction : List Char → List Char) : List Char :=
  if whole ≤ 0 then
    '0' :: fraction (List.replicate (-whole).toNat '0' ++ digits)
  else
    let n := whole.toNat
    digits.take n ++ List.replicate (n - digits.length) '0' ++ fraction (digits.drop n)

/-- The text of a real in a JSON document: positional if the value is at least `1e-5` and below
`1e16`, with at least one digit behind the point, and otherwise with an exponent that has a sign.
What is not finite has no number text and is written `null`. -/
def documentText (r : Real64) : String :=
  let unsigned :=
    if r.isZero then ['0', '.', '0'] else
      let d := Decimal.shortest .even r
      let digits := digitChars d.digits
      let top := d.exponent + digits.length - 1
      if -5 ≤ top ∧ top ≤ 15 then
        positional digits (top + 1) fun rest => if rest.isEmpty then ['.', '0'] else '.' :: rest
      else
        let rest := digits.drop 1
        digits.take 1 ++ (if rest.isEmpty then [] else '.' :: rest)
          ++ ['e', if top < 0 then '-' else '+'] ++ digitChars top.natAbs
  if r.isFinite then
    String.ofList (if r.isNegative then '-' :: unsigned else unsigned)
  else "null"

/-- The text of a real as a setting: always positional, and without a point if it is whole. -/
def plainText (r : Real64) : String :=
  let unsigned :=
    if r.isZero then ['0'] else
      let d := Decimal.shortest .away r
      let digits := digitChars d.digits
      positional digits (d.exponent + digits.length) fun rest =>
        if rest.isEmpty then [] else '.' :: rest
  if r.isFinite then
    String.ofList (if r.isNegative then '-' :: unsigned else unsigned)
  else if r.magnitude = infiniteMagnitude then
    if r.isNegative then "-inf" else "inf"
  else "NaN"

end Real64

end TableReplica
