import TableReplica.Fault
import TableReplica.Record.Registry
import TableReplica.Wire.Clause

/-!
# Bindings

A table and the layout of the records that stand for its rows. A binding turns records into rows and
rows into records, tells which row a record stands for, and writes that down as clauses. Records of
other types can be given to it as well: their fields are addressed by position all the same.
-/

namespace TableReplica

/-- A table with the layout of the records that stand for its rows. -/
structure Binding where
  schema : TableSchema
  layout : Layout
deriving DecidableEq

namespace Binding

/-- The name of the table. -/
def table (b : Binding) : String := b.layout.table

/-! ## Rows -/

/-- The datum of one field in the row of a record. There is none for the identifier, for columns
that the table does not have, and for values that stand for an unset column. -/
def encodeField (b : Binding) (r : Record) (position : Nat) (f : Field) :
    Except ConversionFault (Option Datum) :=
  if position = b.layout.identity then .ok none
  else
    match b.schema.column? f.column, r.get? position with
    | some c, some value => if value.isDefault then .ok none else some <$> c.encode value
    | _, _ => .ok none

/-- The row of a record. -/
def encode (b : Binding) (r : Record) : Except ConversionFault WireRow :=
  b.layout.fields.zipIdx.foldlM (fun row (f, position) =>
    return match ← b.encodeField r position f with
      | some datum => row.insert f.column datum
      | none => row) .empty

/-- The identifier that a datum carries. -/
def decodeIdentity : Datum → Except ConversionFault String
  | .atom (.uuid id) | .atom (.namedUuid id) | .atom (.string id) => .ok id
  | other => .error (.unexpectedDatum Identifier.idColumn (.element .uuid) other)

/-- The identifier that a record holds; empty if it has none. -/
def identity (b : Binding) (r : Record) : String :=
  ((r.get? b.layout.identity).bind Value.toString?).getD ""

/-- The record with another identifier. -/
def setIdentity (b : Binding) (r : Record) (id : String) : Except ConversionFault Record :=
  r.set b.layout.identity (.scalar (.string id))

/-- The record with the field that stands for a column set to a datum. Nothing happens if there is
no such field, or no such column in the table. -/
def decodeColumn (b : Binding) (r : Record) (column : String) (datum : Datum) :
    Except ConversionFault Record :=
  match b.layout.fieldOf? column with
  | none => .ok r
  | some position =>
    if position = b.layout.identity then do b.setIdentity r (← decodeIdentity datum)
    else
      match b.schema.column? column with
      | none => .ok r
      | some c => do r.set position (← c.decode datum)

/-- The record with the fields of some columns set one after the other. The first column that cannot
be decoded ends this; what was set before it stays. -/
def decodeColumns (b : Binding) (r : Record) :
    List (String × Datum) → Record × Except ConversionFault Unit
  | [] => (r, .ok ())
  | (column, datum) :: rest =>
    match b.decodeColumn r column datum with
    | .ok r => b.decodeColumns r rest
    | .error fault => (r, .error fault)

/-- The record with the fields of all columns of a row set, in the order of the column names. -/
def decode (b : Binding) (row : WireRow) (r : Record) : Except ConversionFault Record :=
  row.toList.foldlM (fun r (column, datum) => b.decodeColumn r column datum) r

/-! ## Which row a record stands for -/

/-- The value of the field that stands for a column. -/
def valueOf (b : Binding) (r : Record) (column : String) : Except Fault Value :=
  match (b.layout.fieldOf? column).bind r.get? with
  | some value => .ok value
  | none => .error (.lookup (.column b.table column))

/-- The positions of fields that are given by name. -/
def positionsOf (b : Binding) (names : List String) : Except Fault (List Nat) :=
  names.mapM fun name =>
    match b.layout.fieldNamed? name with
    | some position => .ok position
    | none => .error (.fieldNotFound b.layout.type.name name)

/-- The positions of the fields that stand for the columns of an index, beside the columns, if there
is a field for each of them. -/
def indexGroup? (b : Binding) (columns : List String) : Option (List (Nat × String)) :=
  columns.mapM fun column => (b.layout.fieldOf? column).map (·, column)

/-- The indexes of the table for whose columns there are fields. -/
def indexGroups (b : Binding) : List (List (Nat × String)) :=
  (b.schema.indexes.filterMap b.indexGroup?).filter fun group => !group.isEmpty

/-- Whether two records have the same values at all of these positions. -/
def agreeAt (a c : Record) (positions : List Nat) : Bool :=
  positions.all fun position => a.get? position == c.get? position

/-- Whether two records stand for the same row. Fields that are given by name decide, if there are
any; otherwise the identifier of the first record decides, if it has one; otherwise the records have
to agree on all columns of some index. -/
def sameRow (b : Binding) (a c : Record) (names : List String) : Except Fault Bool :=
  if !names.isEmpty then agreeAt a c <$> b.positionsOf names
  else
    let id := b.identity a
    if id ≠ "" then .ok (id == b.identity c)
    else if b.indexGroups.isEmpty then .error (.noIndex b.table)
    else .ok (b.indexGroups.any fun group => agreeAt a c (group.map Prod.fst))

/-- The clause that the identifier of a row has to satisfy. -/
def identityClause (column id : String) : Clause := ⟨column, .equal, .atom (.reference id)⟩

/-- The clause that asks for the value of a record in one column. -/
def equality (b : Binding) (r : Record) (position : Nat) (column : String) :
    Except Fault Clause := do
  let value := (r.get? position).getD (.scalar (.string ""))
  if position = b.layout.identity then
    return identityClause column (value.toString?.getD "")
  else
    match b.schema.column? column with
    | none => .error (.lookup (.column b.table column))
    | some c => return ⟨column, .equal, ← c.encode value⟩

/-- Whether a record has a value other than that of an unset column at all positions of an index. -/
def isUsable (r : Record) (group : List (Nat × String)) : Bool :=
  group.all fun (position, _) => (r.get? position).any fun value => !value.isDefault

/-- The clauses that select the row of a record, by the same rules as `sameRow`, except that an
index is of use only if the record has values in all of its columns. -/
def clauses (b : Binding) (r : Record) (names : List String) : Except Fault (List Clause) := do
  if !names.isEmpty then
    let positions ← b.positionsOf names
    positions.mapM fun position =>
      b.equality r position ((b.layout.fields[position]?.map Field.column).getD "")
  else
    let id := b.identity r
    if id ≠ "" then return [identityClause Identifier.idColumn id]
    else
      match b.indexGroups.find? (isUsable r) with
      | some group => group.mapM fun (position, column) => b.equality r position column
      | none => .error (.noIndex b.table)

end Binding

end TableReplica
