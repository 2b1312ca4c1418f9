import TableReplica.Json.Literal
import TableReplica.Session.Toml.Text

/-!
# Points in time

A point in time is a date, a time of day, or both, and with both there may be an offset from
universal time. There are several ways to write one, of which one is the usual form.
-/

namespace TableReplica.Toml.Moment

/-- The number that exactly so many digits at the beginning of a text write, and the rest. -/
def fixed? (length : Nat) (text : List Char) : Option (Nat × List Char) :=
  let digits := text.take length
  if digits.length == length && digits.all Char.isDigit then
    some (Literal.digitsValue digits, text.drop length)
  else none

/-- The number of days of a month. -/
def daysOf (year month : Nat) : Nat :=
  if month = 2 then if year % 4 = 0 ∧ (year % 100 ≠ 0 ∨ year % 400 = 0) then 29 else 28
  else if [4, 6, 9, 11].contains month then 30
  else 31

/-- The date at the beginning of a text, as it is written, and the rest. -/
def date? (text : List Char) : Option (List Char × List Char) := do
  let (year, rest) ← fixed? 4 text
  let (month, rest) ← fixed? 2 (← behind? '-' rest)
  let (day, rest) ← fixed? 2 (← behind? '-' rest)
  guard (1 ≤ month ∧ month ≤ 12 ∧ 1 ≤ day ∧ day ≤ daysOf year month)
  return (text.take 10, rest)

/-- A fraction of a second in its usual form: nine digits at most, and no zeros at the end. -/
def fractionForm (digits : List Char) : List Char :=
  match ((digits.take 9).reverse.dropWhile (· == '0')).reverse with
  | [] => []
  | digits => '.' :: digits

/-- The time of day at the beginning of a text, in its usual form, and the rest. A minute may have a
leap second. -/
def time? (text : List Char) : Option (List Char × List Char) := do
  let (hour, rest) ← fixed? 2 text
  let (minute, rest) ← fixed? 2 (← behind? ':' rest)
  let (second, rest) ← fixed? 2 (← behind? ':' rest)
  guard (hour ≤ 23 ∧ minute ≤ 59 ∧ second ≤ 60)
  match rest with
  | '.' :: rest =>
    let (digits, rest) := Literal.spanDigits rest
    guard (!digits.isEmpty)
    return (text.take 8 ++ fractionForm digits, rest)
  | rest => return (text.take 8, rest)

/-- The offset that is all that is left of a text, in its usual form. No difference is written with
a plus sign. -/
def offset? : List Char → Option (List Char)
  | [] => some []
  | ['Z'] | ['z'] => some ['Z']
  | sign :: offset => do
    guard (sign = '+' ∨ sign = '-')
    let (hours, rest) ← fixed? 2 offset
    let (minutes, rest) ← fixed? 2 (← behind? ':' rest)
    guard (hours ≤ 23 ∧ minutes ≤ 59 ∧ rest.isEmpty)
    return (if hours = 0 ∧ minutes = 0 then '+' else sign) :: offset

/-- The usual form of a text that writes a point in time. -/
def form? (text : List Char) : Option (List Char) :=
  match date? text with
  | some (date, []) => some date
  | some (date, separator :: rest) => do
    guard (separator = 'T' ∨ separator = 't' ∨ separator = ' ')
    let (time, rest) ← time? rest
    return date ++ 'T' :: time ++ (← offset? rest)
  | none =>
    match time? text with
    | some (time, []) => some time
    | _ => none

end TableReplica.Toml.Moment
