import TableReplica.Schema.Basic
import TableReplica.Value.Basic

/-!
# Coding of column values

How the values of a column travel. A column of a kind and type fixes the type of its values;
`decode` turns a datum into such a value, and `encode` turns a value of exactly that type into a
datum. Both refuse anything else. Identifiers of rows are texts inside the program; on their way out
a text that is an identifier refers to a row of the database, and any other to a row of the
transaction.
-/

namespace TableReplica

/-- What a column would have accepted instead of a datum. -/
inductive Expectation where
  | element (type : AtomicType)
  | set
  | map
deriving DecidableEq

/-- The name of what would have been accepted. -/
def Expectation.name : Expectation → String
  | .element type => type.name
  | .set => "set"
  | .map => "map"

/-- Why a value or a datum does not fit where it should go. -/
inductive ConversionFault where
  | typeMismatch (column : String) (expected : ValueType) (got : Value)
  | unexpectedDatum (column : String) (expected : Expectation) (got : Datum)
  /-- The kind of a column needs a type that its schema does not give. -/
  | unsupported (column : String)
  | malformed (cause : Malformed)
  | noSuchField (position : Nat)
deriving DecidableEq

/-- The text of the fault. -/
def ConversionFault.message : ConversionFault → String
  | .typeMismatch column expected got =>
    "bad type in column " ++ column ++ ": expected " ++ expected.name ++ ", got " ++ got.describe
  | .unexpectedDatum column expected got =>
    "column " ++ column ++ ": cannot decode " ++ got.kind ++ " as " ++ expected.name
  | .unsupported column => "column " ++ column ++ " has an incomplete type description"
  | .malformed cause => "malformed datum: " ++ cause.message
  | .noSuchField position => "model has no field at position " ++ toString position

/-- The reference that a text makes. -/
def Atom.reference (id : String) : Atom :=
  if Identifier.isValid id then .uuid id else .namedUuid id

/-- The atom that carries a scalar as an element of an atomic type. -/
def AtomicType.encode (type : AtomicType) : Scalar → Atom
  | .integer i => .integer i
  | .real r => .real r
  | .boolean b => .boolean b
  | .string s => if type = .uuid then .reference s else .string s

/-- The scalar that an atom carries as an element of an atomic type. Whole reals may travel as
integers. -/
def AtomicType.decode? : AtomicType → Atom → Option Scalar
  | .integer, .integer i => some (.integer i)
  | .real, .real r => some (.real r)
  | .real, .integer i => some (.real (.ofInt i.toInt))
  | .boolean, .boolean b => some (.boolean b)
  | .string, .string s => some (.string s)
  | .uuid, .uuid id => some (.string id)
  | .uuid, .namedUuid name => some (.string name)
  | _, _ => none

namespace ColumnSchema

/-- The atomic type of the elements of a column, or of its keys if it is a map. -/
def keyType (c : ColumnSchema) : Except ConversionFault AtomicType :=
  match c.kind, c.type? with
  | .atomic type, _ => .ok type
  | _, some t => .ok t.key.kind
  | _, none => .error (.unsupported c.name)

/-- The atomic type of the values of a map. -/
def mappedType (c : ColumnSchema) : Except ConversionFault AtomicType :=
  match c.type? with
  | some { value := some value, .. } => .ok value.kind
  | _ => .error (.unsupported c.name)

/-- The type of the values of a column. -/
def valueType (c : ColumnSchema) : Except ConversionFault ValueType := do
  let key := ScalarType.ofAtomic (← c.keyType)
  match c.kind with
  | .set => return .set key
  | .map => return .map key (.ofAtomic (← c.mappedType))
  | .atomic _ | .enumeration => return .scalar key

/-- Decodes an element of a column. -/
def decodeAtom (c : ColumnSchema) (type : AtomicType) (atom : Atom) :
    Except ConversionFault Scalar :=
  match type.decode? atom with
  | some s => .ok s
  | none => .error (.unexpectedDatum c.name (.element type) (.atom atom))

/-- Decodes the entry of a map. -/
def decodeEntry (c : ColumnSchema) (key value : AtomicType) (entry : Atom × Atom) :
    Except ConversionFault (Scalar × Scalar) :=
  return (← c.decodeAtom key entry.1, ← c.decodeAtom value entry.2)

/-- Decodes a datum of a column. An element may travel as the set of it alone, and an unset
enumeration as the empty set; of several entries of a map with one key the last counts. -/
def decode (c : ColumnSchema) (datum : Datum) : Except ConversionFault Value := do
  let key ← c.keyType
  match c.kind with
  | .set =>
    match datum.elements? with
    | some atoms => return .set (← atoms.mapM (c.decodeAtom key))
    | none => .error (.unexpectedDatum c.name .set datum)
  | .map =>
    match datum with
    | .map entries =>
      let value ← c.mappedType
      return .map (.ofList (← entries.mapM (c.decodeEntry key value)))
    | _ => .error (.unexpectedDatum c.name .map datum)
  | .atomic _ | .enumeration =>
    match datum with
    | .atom atom | .set [atom] => return .scalar (← c.decodeAtom key atom)
    | .set [] =>
      if c.kind = .enumeration then return .scalar (ScalarType.ofAtomic key).default
      else .error (.unexpectedDatum c.name (.element key) datum)
    | _ => .error (.unexpectedDatum c.name (.element key) datum)

/-- Encodes a value of a column. -/
def encode (c : ColumnSchema) (value : Value) : Except ConversionFault Datum := do
  let type ← c.valueType
  if value.conforms type then
    let key ← c.keyType
    match value with
    | .scalar s => return .atom (key.encode s)
    | .set elements => return .set (elements.map key.encode)
    | .map entries =>
      let mapped ← c.mappedType
      return .map (entries.toList.map fun (k, v) => (key.encode k, mapped.encode v))
  else .error (.typeMismatch c.name type value)

/-- Encodes a single element or key of a column. -/
def encodeKey (c : ColumnSchema) (s : Scalar) : Except ConversionFault Atom := do
  let key ← c.keyType
  if s.type = ScalarType.ofAtomic key then return key.encode s
  else .error (.typeMismatch c.name (.scalar (.ofAtomic key)) (.scalar s))

end ColumnSchema

end TableReplica
