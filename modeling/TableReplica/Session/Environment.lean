import TableReplica.Session.Setting

/-!
# Settings in the environment

Environment variables are texts, so what they set is what their text looks like: a truth value, a
whole number, a real, or else the text itself.
-/

namespace TableReplica.Environment

/-- What the names of variables with settings begin with. -/
def namePrefix : String := "ovsdb_"

/-- The sign of a text, and what follows it. -/
def splitSign : List Char → Bool × List Char
  | '-' :: rest => (true, rest)
  | '+' :: rest => (false, rest)
  | rest => (false, rest)

/-- The whole number that a text writes, if it fits into a signed 64-bit word. -/
def wholeOf? (text : List Char) : Option Int64 :=
  let (negative, digits) := splitSign text
  if digits.isEmpty || !digits.all Char.isDigit then none
  else
    let n : Int := Literal.digitsValue digits
    Word.signed? (if negative then -n else n)

/-- The exponent that follows the digits of a real. -/
def exponentOf? : List Char → Option Int
  | [] => some 0
  | mark :: rest =>
    if mark = 'e' ∨ mark = 'E' then
      let (negative, digits) := splitSign rest
      if digits.isEmpty || !digits.all Char.isDigit then none
      else
        let n : Int := Literal.digitsValue digits
        some (if negative then -n else n)
    else none

/-- The real that a text writes: digits, of which there may be some before and some behind the
point, and an exponent, or a word for what is not finite. -/
def realOf? (text : List Char) : Option Real64 :=
  let (negative, unsigned) := splitSign text
  let word := String.ofList (unsigned.map Char.toLower)
  if word = "inf" ∨ word = "infinity" then
    some (.ofMagnitude negative Real64.infiniteMagnitude)
  else if word = "nan" then some .nan
  else
    let (before, rest) := Literal.spanDigits unsigned
    let (behind, rest) :=
      match rest with
      | '.' :: rest => Literal.spanDigits rest
      | rest => ([], rest)
    if before.isEmpty && behind.isEmpty then none
    else
      (exponentOf? rest).map fun exponent =>
        .ofScientific negative (Literal.digitsValue (before ++ behind)) (exponent - behind.length)

/-- What a text in the environment sets. -/
def settingOf (text : String) : Setting :=
  match text.toLower with
  | "true" => .truth true
  | "false" => .truth false
  | _ =>
    match wholeOf? text.toList with
    | some i => .whole i
    | none =>
      match realOf? text.toList with
      | some r => .real r
      | none => .text text

/-- The settings of an environment, given by the names and texts of its variables, in their order.
The case of the names does not matter. -/
def settings (environment : List (String × String)) : List (String × Setting) :=
  environment.filterMap fun (name, text) =>
    let name := name.toLower.toList
    if namePrefix.toList.isPrefixOf name then
      some (String.ofList (name.drop namePrefix.length), settingOf text)
    else none

end TableReplica.Environment
