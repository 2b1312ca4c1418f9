import TableReplica.Json.Print

/-!
# Atoms

A single element of a column as it travels: a plain JSON scalar, or a reference to a row written as
a tagged pair. Writing an atom and reading it again gives the same atom, unless it is a real that
JSON cannot write (`Atom.ofJson_toJson`).
-/

namespace TableReplica

/-- Why a JSON value writes no atom or no datum. -/
inductive Malformed where
  | notAtom (value : Json)
  /-- A set or a map, as the tag says, whose second part is not a list. -/
  | bodyNotList (tag : String) (body : Json)
  | entryNotPair (entry : Json)
deriving DecidableEq

/-- The text of the reason. -/
def Malformed.message : Malformed → String
  | .notAtom value => "not an atom: " ++ value.text
  | .bodyNotList tag body => tag ++ " body is not a list: " ++ body.text
  | .entryNotPair entry => "map entry is not a pair: " ++ entry.text

/-- A single element of a column as it travels. -/
inductive Atom where
  | integer (i : Int64)
  | real (r : Real64)
  | boolean (b : Bool)
  | string (s : String)
  /-- A reference to a row that the database holds. -/
  | uuid (id : String)
  /-- A reference to a row that an operation of the same transaction inserts. -/
  | namedUuid (name : String)
deriving DecidableEq

namespace Atom

/-- The atom of a number: a signed 64-bit integer stays one, all else becomes a real. -/
def ofNumber (n : Number) : Atom :=
  match n.toInt? with
  | some i => .integer i
  | none => .real n.toReal

/-- The atom that a JSON value writes. -/
def ofJson : Json → Except Malformed Atom
  | .bool b => .ok (.boolean b)
  | .string s => .ok (.string s)
  | .number n => .ok (ofNumber n)
  | .array [.string "uuid", .string id] => .ok (.uuid id)
  | .array [.string "named-uuid", .string name] => .ok (.namedUuid name)
  | other => .error (.notAtom other)

/-- The JSON value that writes an atom. -/
def toJson : Atom → Json
  | .integer i => .ofInt i
  | .real r => .ofReal r
  | .boolean b => .bool b
  | .string s => .string s
  | .uuid id => .array [.string "uuid", .string id]
  | .namedUuid name => .array [.string "named-uuid", .string name]

/-- The name of the kind of an atom. -/
def kind : Atom → String
  | .integer _ => "integer"
  | .real _ => "real"
  | .boolean _ => "boolean"
  | .string _ => "string"
  | .uuid _ => "uuid"
  | .namedUuid _ => "named-uuid"

/-- Whether JSON can write the atom as a value of its own kind. -/
def isWritable : Atom → Bool
  | .real r => r.isFinite
  | _ => true

theorem ofJson_toJson {a : Atom} (writable : a.isWritable = true) : ofJson a.toJson = .ok a := by
  cases a with
  | real r =>
    have isFinite : r.isFinite = true := writable
    simp [toJson, Json.ofReal, Number.ofReal?, isFinite, ofJson, ofNumber, Number.toInt?,
      Number.toReal]
  | _ => rfl

end Atom

end TableReplica
