import TableReplica.Session.Toml.Node

/-!
# Scalars in TOML

Numbers, truth values, and points in time, which are all written as one word. Underscores may stand
between digits. A point in time is kept in its usual form, however it was written.
-/

namespace TableReplica.Toml

/-- The digits of a group in which underscores may stand between digits. -/
def digitsOf? (isDigit : Char → Bool) : List Char → Option (List Char)
  | [] => none
  | [c] => if isDigit c then some [c] else none
  | c :: '_' :: rest => if isDigit c then (digitsOf? isDigit rest).map (c :: ·) else none
  | c :: rest => if isDigit c then (digitsOf? isDigit rest).map (c :: ·) else none

/-- The value of a digit of any base up to sixteen. -/
def digitValue (c : Char) : Nat :=
  if c.isDigit then c.toNat - '0'.toNat else c.toLower.toNat - 'a'.toNat + 10

/-- The number that digits of some base write. -/
def valueOf (base : Nat) (digits : List Char) : Nat :=
  digits.foldl (fun n c => base * n + digitValue c) 0

/-- Whether a word begins with a minus sign, and what follows its sign, if it has one. -/
def splitSign : List Char → Bool × List Char
  | '-' :: rest => (true, rest)
  | '+' :: rest => (false, rest)
  | rest => (false, rest)

/-- Decimal digits that begin with a zero only if that is all. -/
def decimalOf? (text : List Char) : Option (List Char) :=
  (digitsOf? Char.isDigit text).filter fun digits => digits.head? != some '0' || digits.length == 1

/-- The whole number that digits of a base other than ten write. -/
def basedOf? (base : Nat) (digits : List Char) : Option Int64 :=
  let isDigit (c : Char) : Bool := c.isAlphanum && digitValue c < base
  (digitsOf? isDigit digits).bind fun digits => Word.signed? (valueOf base digits)

/-- The whole number that a word writes. -/
def wholeOf? (text : List Char) : Option Int64 :=
  match text with
  | '0' :: 'x' :: rest => basedOf? 16 rest
  | '0' :: 'o' :: rest => basedOf? 8 rest
  | '0' :: 'b' :: rest => basedOf? 2 rest
  | _ =>
    let (negative, digits) := splitSign text
    (decimalOf? digits).bind fun digits =>
      let n : Int := valueOf 10 digits
      Word.signed? (if negative then -n else n)

/-- The parts of a word before and behind the first character that satisfies a test. -/
def splitAt? (test : Char → Bool) (text : List Char) : Option (List Char × List Char) :=
  match text.dropWhile fun c => !test c with
  | [] => none
  | _ :: rest => some (text.takeWhile fun c => !test c, rest)

/-- The exponent that a group of digits with a sign writes. -/
def exponentOf? (text : List Char) : Option Int := do
  let (negative, digits) := splitSign text
  let n : Int := valueOf 10 (← digitsOf? Char.isDigit digits)
  return if negative then -n else n

/-- The real that a word with a point or an exponent writes. A number above the greatest real is
refused, while one that is as far below zero counts as infinite. -/
def realOf? (text : List Char) : Option Real64 := do
  let (negative, unsigned) := splitSign text
  if unsigned = ['i', 'n', 'f'] then
    return .ofMagnitude negative Real64.infiniteMagnitude
  if unsigned = ['n', 'a', 'n'] then return .nan
  let scaled := splitAt? (fun c => c == 'e' || c == 'E') unsigned
  let (mantissa, exponent) := scaled.getD (unsigned, ['0'])
  let pointed := splitAt? (· == '.') mantissa
  guard (scaled.isSome || pointed.isSome)
  let (whole, fraction) := pointed.getD (mantissa, [])
  let whole ← decimalOf? whole
  let fraction ← if pointed.isSome then digitsOf? Char.isDigit fraction else some []
  let r := Real64.ofScientific negative (valueOf 10 (whole ++ fraction))
    ((← exponentOf? exponent) - fraction.length)
  guard (r.isFinite || negative)
  return r

/-- What a word stands for. -/
def scalarOf? (text : List Char) : Option Node :=
  match String.ofList text with
  | "true" => some (.truth true)
  | "false" => some (.truth false)
  | _ =>
    ((wholeOf? text).map .whole) <|> ((realOf? text).map .real) <|>
      ((Moment.form? text).map fun form => .moment (String.ofList form))

end TableReplica.Toml
