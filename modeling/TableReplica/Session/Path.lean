import TableReplica.Session.Setting
import TableReplica.Session.Toml.Text

/-!
# Paths to settings

A name may lead into a composite setting: behind the name of the setting there are the names of
members, each behind a point, and places of elements, each in brackets. Setting such a name makes
every setting on the way composite, and lists on the way as long as need be.
-/

namespace TableReplica

/-- A step into a composite setting. -/
inductive Step where
  | member (name : String)
  /-- The element at a place, which is counted from the end if it is negative. -/
  | element (place : Int64)

/-- The name of a setting, and the steps into it. -/
structure Path where
  root : String
  steps : List Step

namespace Path

/-! ## Reading -/

/-- Whether a name on a path may hold this character. -/
def isNameChar (c : Char) : Bool := c.isAlphanum || c == '_' || c == '-' || c == ' '

/-- The name at the beginning of a text, and what follows it. -/
def name? (text : List Char) : Option (String × List Char) :=
  let name := text.takeWhile isNameChar
  if name.isEmpty then none else some (String.ofList name, text.drop name.length)

/-- The place at the beginning of a text, and what follows it. -/
def place? (text : List Char) : Option (Int64 × List Char) :=
  let (negative, unsigned) :=
    match text with
    | '-' :: rest => (true, rest)
    | rest => (false, rest)
  let (digits, rest) := Literal.spanDigits unsigned
  let n : Int := Literal.digitsValue digits
  if digits.isEmpty then none
  else (Word.signed? (if negative then -n else n)).map (·, rest)

/-- The steps that are all there is of a text. Blanks may stand around places. The first number
bounds the steps. -/
def steps? : Nat → List Char → Option (List Step)
  | _, [] => some []
  | bound + 1, '.' :: rest => do
    let (name, rest) ← name? rest
    return .member name :: (← steps? bound rest)
  | bound + 1, '[' :: rest => do
    let (place, rest) ← place? (Toml.skipBlanks rest)
    return .element place :: (← steps? bound (← Toml.behind? ']' (Toml.skipBlanks rest)))
  | _, _ => none

/-- The path that a text writes. -/
def read? (text : String) : Option Path := do
  let (root, rest) ← name? text.toList
  return ⟨root, ← steps? rest.length rest⟩

/-- The path that a name stands for. One that writes no path is the name of a setting as it is. -/
def ofName (name : String) : Path := (read? name).getD ⟨name, []⟩

/-! ## Setting -/

/-- No list can be as long as this. -/
def maxLength : Nat := 1 <<< 56

/-- The index of a place in a list of some length, to which the list may have to be extended. There
is none in front of the list, nor where no list can reach. -/
def index? (length : Nat) (place : Int) : Option Nat :=
  let index := if place < 0 then length + place else place
  if 0 ≤ index ∧ index < maxLength then some index.toNat else none

/-- What becomes of a setting when something is set some steps into it, if the places of elements on
the way exist. An element is replaced, while a member is merged with what it has been before. -/
def setWithin? (setting : Setting) : List Step → Option Setting → Option Setting
  | [], earlier => some (.merge earlier setting)
  | .member name :: steps, earlier => do
    let members := (earlier.map Setting.members).getD []
    let inner ← setWithin? setting steps (members.lookup name)
    return .table (Setting.put members name inner)
  | .element place :: steps, earlier => do
    let (length, elements) := (earlier.map Setting.elements).getD (0, [])
    let index ← index? length place.toInt
    let inner ← setWithin? setting steps (if steps.isEmpty then none else elements.lookup index)
    return .list (max length (index + 1)) (Setting.put elements index inner)

end Path

end TableReplica
