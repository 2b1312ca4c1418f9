import TableReplica.Wire.Atom

/-!
# Data

The value of a column as it travels: an atom, a set of atoms, or a map between atoms. A set of one
element may also be written as the element alone, so such a datum reads as an atom.
-/

namespace TableReplica

/-- The value of a column as it travels. -/
inductive Datum where
  | atom (a : Atom)
  | set (atoms : List Atom)
  | map (entries : List (Atom × Atom))
deriving DecidableEq

/-- A row as it travels: the data of some columns. -/
abbrev WireRow := SortedMap String Datum

namespace Datum

/-- The entry of a map that a JSON value writes. -/
def entryOfJson : Json → Except Malformed (Atom × Atom)
  | .array [k, v] => return (← Atom.ofJson k, ← Atom.ofJson v)
  | other => .error (.entryNotPair other)

/-- The datum that a JSON value writes. -/
def ofJson : Json → Except Malformed Datum
  | .array [.string "set", .array items] => return .set (← items.mapM Atom.ofJson)
  | .array [.string "map", .array items] => return .map (← items.mapM entryOfJson)
  | .array [.string "set", body] => .error (.bodyNotList "set" body)
  | .array [.string "map", body] => .error (.bodyNotList "map" body)
  | other => return .atom (← Atom.ofJson other)

/-- The JSON value that writes the entry of a map. -/
def entryToJson (entry : Atom × Atom) : Json := .array [entry.1.toJson, entry.2.toJson]

/-- The JSON value that writes a datum. -/
def toJson : Datum → Json
  | .atom a => a.toJson
  | .set atoms => .array [.string "set", .array (atoms.map Atom.toJson)]
  | .map entries => .array [.string "map", .array (entries.map entryToJson)]

/-- The elements of a datum that is or stands for a set. -/
def elements? : Datum → Option (List Atom)
  | .set atoms => some atoms
  | .atom a => some [a]
  | .map _ => none

/-- The name of the kind of a datum. -/
def kind : Datum → String
  | .atom a => a.kind
  | .set _ => "set"
  | .map _ => "map"

end Datum

/-- The JSON value that writes a row. -/
def WireRow.toJson (row : WireRow) : Json := .ofMap (row.mapValues fun _ d => d.toJson)

end TableReplica
