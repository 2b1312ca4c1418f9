import TableReplica.Json.Basic

/-!
# Number literals

The grammar of JSON numbers and the value of each. A literal without point and exponent that fits
into 64 bits is a whole number, except that `-0` is the real with that sign. Every other literal is
a real: its digits are gathered while they fit into an unsigned 64-bit word, the word is rounded to
a real, and one product or quotient with a power of ten applies the exponent. A literal beyond the
greatest finite real has no value.
-/

namespace TableReplica

/-- The parts of a number literal. -/
structure Literal where
  negative : Bool
  /-- The digits before the point; there is at least one, and a zero stands only alone. -/
  whole : List Char
  /-- The digits behind the point, if there is one; then there is at least one. -/
  fraction : Option (List Char)
  /-- The sign and the digits of the exponent, if there is one. -/
  exponent : Option (Bool × List Char)

namespace Literal

/-- The digits at the beginning of a text, and what follows them. -/
def spanDigits (text : List Char) : List Char × List Char :=
  (text.takeWhile Char.isDigit, text.dropWhile Char.isDigit)

/-- Reads an exponent, which has to be all that is left of a literal. -/
def readExponent? : List Char → Option (Option (Bool × List Char))
  | [] => some none
  | mark :: rest =>
    if mark = 'e' ∨ mark = 'E' then
      let (negative, digits) :=
        match rest with
        | '+' :: digits => (false, digits)
        | '-' :: digits => (true, digits)
        | digits => (false, digits)
      if digits.isEmpty || !digits.all Char.isDigit then none else some (some (negative, digits))
    else none

/-- The parts of a text that is a number literal. -/
def read? (text : List Char) : Option Literal := do
  let (negative, unsigned) :=
    match text with
    | '-' :: rest => (true, rest)
    | rest => (false, rest)
  let (whole, rest) := spanDigits unsigned
  guard (!whole.isEmpty && (whole.head? != some '0' || whole.length == 1))
  match rest with
  | '.' :: rest =>
    let (fraction, rest) := spanDigits rest
    guard (!fraction.isEmpty)
    return ⟨negative, whole, some fraction, ← readExponent? rest⟩
  | rest => return ⟨negative, whole, none, ← readExponent? rest⟩

/-- The number that a digit stands for. -/
def digitValue (c : Char) : Nat := c.toNat - '0'.toNat

/-- The number that a list of digits stands for. -/
def digitsValue (digits : List Char) : Nat :=
  digits.foldl (fun n c => 10 * n + digitValue c) 0

/-- Appends digits to a significand while the result fits into an unsigned 64-bit word; returns the
significand and the number of digits that were left out. -/
def gather : Nat → List Char → Nat × Nat
  | significand, [] => (significand, 0)
  | significand, c :: rest =>
    let longer := 10 * significand + digitValue c
    if longer < UInt64.size then gather longer rest else (significand, rest.length + 1)

/-- The power of ten as a real. -/
def powerOfTen (k : Nat) : Real64 := Real64.ofScientific false 1 k

/-- A real divided by a power of ten. Powers beyond the greatest real are applied in steps, until
they are used up or nothing is left. -/
def divideByPower (r : Real64) (k : Nat) : Real64 :=
  if k ≤ 308 then r.div (powerOfTen k)
  else if r.isZero then r
  else divideByPower (r.div (powerOfTen 308)) (k - 308)
termination_by k

/-- The real `significand * 10 ^ exponent`, unless it is beyond the greatest one. -/
def scale? (significand : Nat) (exponent : Int) : Option Real64 :=
  let r := Real64.ofNat significand
  if exponent < 0 then some (divideByPower r exponent.natAbs)
  else if r.isZero then some r
  else if exponent ≤ 308 then
    let scaled := r.mul (powerOfTen exponent.toNat)
    if scaled.isFinite then some scaled else none
  else none

/-- The value of a literal as a whole number, if it is written and fits as one. -/
def toWhole? (l : Literal) : Option Number :=
  let n := digitsValue l.whole
  if l.fraction.isSome || l.exponent.isSome then none
  else if l.negative then
    if n = 0 then none else (Word.signed? (-n)).map .int
  else (Word.unsigned? n).map .ofUnsigned

/-- The value of a literal as a real, if it is not beyond the greatest one. -/
def toReal? (l : Literal) : Option Real64 := do
  let (significand, leftOut) := gather 0 l.whole
  let fraction := l.fraction.getD []
  let (significand, ignored) := gather significand fraction
  let shift : Int :=
    match l.exponent with
    | none => 0
    | some (true, digits) => -(digitsValue digits)
    | some (false, digits) => digitsValue digits
  let r ← scale? significand (leftOut - (fraction.length - ignored : Nat) + shift)
  return if l.negative then r.neg else r

/-- The value of a literal. -/
def toNumber? (l : Literal) : Option Number :=
  match l.toWhole? with
  | some n => some n
  | none => l.toReal?.bind Number.ofReal?

end Literal

end TableReplica
