import TableReplica.Query.Selection
import TableReplica.Wire.Operation

/-!
# Editing

Operations that insert a record, and operations that delete, update or mutate the selected rows: one
for each list of clauses that the selection needs. The replica itself is not changed by any of them;
it follows when the server reports what they have done.
-/

namespace TableReplica

/-- The mutation of a field of a record. -/
structure FieldMutation where
  field : String
  mutator : Mutator
  value : Value
deriving DecidableEq

/-- Whether a mutator calculates with the elements of a column. -/
def Mutator.isArithmetic : Mutator → Bool
  | .insert | .delete => false
  | _ => true

/-- Encodes the operand of a mutation. Calculation on a set takes a single element, and deletion
from a map may take keys alone; everything else is encoded as a value of the column. -/
def ColumnSchema.encodeOperand (c : ColumnSchema) (mutator : Mutator) (value : Value) :
    Except ConversionFault Datum := do
  match c.kind, value with
  | .set, .scalar element =>
    if mutator.isArithmetic then return .atom (← c.encodeKey element) else c.encode value
  | .map, .set keys =>
    if mutator = .delete then return .set (← keys.mapM c.encodeKey) else c.encode value
  | _, _ => c.encode value

namespace Binding

/-- The column that a field stands for, and its position. -/
def columnOf (b : Binding) (name : String) : Except Fault (String × ColumnSchema) :=
  match (b.layout.fieldNamed? name).bind fun position => b.layout.fields[position]? with
  | none => .error (.fieldNotFound b.layout.type.name name)
  | some f =>
    match b.schema.column? f.column with
    | none => .error (.lookup (.column b.table f.column))
    | some c => .ok (f.column, c)

/-- The mutation of the column that a field stands for. -/
def mutation (b : Binding) (m : FieldMutation) : Except Fault Mutation := do
  let (column, c) ← b.columnOf m.field
  return ⟨column, m.mutator, ← c.encodeOperand m.mutator m.value⟩

/-- The datum of a field that is given by name, with its column. -/
def encodeNamed (b : Binding) (r : Record) (name : String) : Except Fault (String × Datum) := do
  let (column, c) ← b.columnOf name
  return (column, ← c.encode (← b.valueOf r column))

/-- The row of the fields that are given by name, or of all fields that are set if none are, without
the columns that cannot be changed. -/
def changeableRow (b : Binding) (r : Record) (names : List String) : Except Fault WireRow := do
  let row ←
    if names.isEmpty then (b.encode r : Except Fault WireRow)
    else SortedMap.ofList <$> names.mapM (b.encodeNamed r)
  return row.filter fun column _ => (b.schema.column? column).any ColumnSchema.mutable

end Binding

namespace Store

/-- The operation that inserts a record. Other operations of the transaction can refer to the row by
the identifier of the record. -/
def create (s : Store) (r : Record) : Except ReplicaFault Operation := do
  let table ← s.tableFor r.type
  let b ← (s.binding table : Except Fault Binding)
  return {
    kind := .insert, table
    row := ← (b.encode r : Except Fault WireRow)
    uuidName := b.identity r }

end Store

namespace Selection

/-- One copy of an operation for each list of clauses. -/
def operations (c : Selection) (s : Store) (o : Operation) :
    Except ReplicaFault (List Operation) :=
  return (← c.clauses s).map fun clauses => { o with clauses }

/-- The operations that delete the selected rows. -/
def delete (c : Selection) (s : Store) : Except ReplicaFault (List Operation) :=
  c.operations s { kind := .delete, table := c.table }

/-- The table of the selection, provided that a record type is registered for it. -/
def tableFor (c : Selection) (s : Store) (t : RecordType) : Except InputFault String := do
  let table ← s.tableFor t
  if table = c.table then return table else .error (.otherTable c.table table t.name)

/-- The operations that write fields of a record to the selected rows. -/
def update (c : Selection) (s : Store) (r : Record) (names : List String) :
    Except ReplicaFault (List Operation) := do
  let table ← c.tableFor s r.type
  let b ← (s.binding table : Except Fault Binding)
  let row ← b.changeableRow r names
  c.operations s { kind := .update, table, row }

/-- The operations that mutate fields in the selected rows, which records of a type stand for. -/
def mutate (c : Selection) (s : Store) (t : RecordType) (changes : List FieldMutation) :
    Except ReplicaFault (List Operation) := do
  let table ← c.tableFor s t
  let b ← (s.binding table : Except Fault Binding)
  let mutations ← (changes.mapM b.mutation : Except Fault (List Mutation))
  c.operations s { kind := .mutate, table, mutations }

end Selection

end TableReplica
