import TableReplica.Json.Literal
import TableReplica.Real.Decimal

/-!
# Single settings

What a source of settings says about one of them, and what it stands for where a text, a number or a
truth value is wanted. Sources do not agree on types (an environment knows only texts), so each type
stands in for the others where that makes sense; a composite value stands for none of them. Of two
sources that set the same name, the later one counts, while tables are merged.
-/

namespace TableReplica

/-- What a source says about a setting. -/
inductive Setting where
  | text (s : String)
  | whole (i : Int64)
  | real (r : Real64)
  | truth (b : Bool)
  /-- A list of some length, of which those elements are known that have been set. -/
  | list (length : Nat) (elements : List (Nat × Setting))
  | table (members : List (String × Setting))

namespace Setting

/-- The digits of a text that consists of digits behind an optional plus sign. -/
def unsignedDigits? (text : List Char) : Option (List Char) :=
  let digits :=
    match text with
    | '+' :: rest => rest
    | rest => rest
  if digits.isEmpty || !digits.all Char.isDigit then none else some digits

/-- The number that a text of digits writes, if it fits into 64 bits. -/
def unsignedOf? (text : String) : Option UInt64 :=
  (unsignedDigits? text.toList).bind fun digits => Word.unsigned? (Literal.digitsValue digits)

/-- The whole number nearest to a real, a half going away from zero; what lies outside the range of
64 bits goes to its ends, and what is no number to zero. -/
def nearestUnsigned (r : Real64) : UInt64 :=
  if r.isNegative || Real64.infiniteMagnitude < r.magnitude then 0
  else if r.magnitude = Real64.infiniteMagnitude then .ofNat (UInt64.size - 1)
  else
    let (num, den) := r.ratio
    .ofNat (min ((2 * num + den) / (2 * den)) (UInt64.size - 1))

/-- The setting as a text. -/
def toText? : Setting → Option String
  | .text s => some s
  | .whole i => some (toString i.toInt)
  | .real r => some r.plainText
  | .truth b => some (if b then "true" else "false")
  | .list .. | .table _ => none

/-- Words for truth values. -/
def truthWord? (word : String) : Option Bool :=
  if ["true", "on", "yes"].contains word then some true
  else if ["false", "off", "no"].contains word then some false
  else none

/-- The setting as a natural number. -/
def toUnsigned? : Setting → Option UInt64
  | .text s =>
    match truthWord? s.toLower with
    | some b => some (if b then 1 else 0)
    | none => unsignedOf? s
  | .whole i => if 0 ≤ i.toInt then some i.toUInt64 else none
  | .real r => some (nearestUnsigned r)
  | .truth b => some (if b then 1 else 0)
  | .list .. | .table _ => none

/-- The setting as a truth value. -/
def toTruth? : Setting → Option Bool
  | .text s =>
    let word := s.toLower
    if word = "1" then some true else if word = "0" then some false else truthWord? word
  | .whole i => some (i != 0)
  | .real r => some !r.isZero
  | .truth b => some b
  | .list .. | .table _ => none

/-! ## Composite settings -/

/-- The members of a table; nothing else has any. -/
def members : Setting → List (String × Setting)
  | .table members => members
  | _ => []

/-- The length and the known elements of a list; what is no list counts as an empty one. -/
def elements : Setting → Nat × List (Nat × Setting)
  | .list length elements => (length, elements)
  | _ => (0, [])

/-- Sets an entry, which replaces the one with the same key. -/
def put {κ : Type} [BEq κ] (entries : List (κ × Setting)) (key : κ) (setting : Setting) :
    List (κ × Setting) :=
  (key, setting) :: entries.filter (·.1 != key)

mutual

/-- What a name stands for that is set once more. A table adds its members to what it finds, and
everything else replaces it. -/
def merge (earlier : Option Setting) : Setting → Setting
  | .table members => mergeMembers (earlier.getD (.table [])) members
  | later => later

/-- What becomes of a setting when it is given some members one after the other. If there are any,
it is a table from then on. The case of names does not matter. -/
def mergeMembers (earlier : Setting) : List (String × Setting) → Setting
  | [] => earlier
  | (name, later) :: rest =>
    let name := name.toLower
    let members := earlier.members
    mergeMembers (.table (put members name (merge (members.lookup name) later))) rest

end

end Setting

end TableReplica
