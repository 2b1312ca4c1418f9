import TableReplica.Schema.Basic
import TableReplica.Wire.Operation

/-!
# Operations against a schema

An operation can be refused before it is sent, if it names a table or a column that the schema does
not have. Looked at are the rows that an operation carries and the columns that it selects.
-/

namespace TableReplica

/-- The columns that an operation names in its rows and selects, in that order. -/
def Operation.namedColumns (o : Operation) : List String :=
  o.row.keys ++ o.rows.flatMap SortedMap.keys ++ o.columns

namespace Schema

/-- Finds the first table or column that an operation names and the schema does not have. -/
def checkOperation (s : Schema) (o : Operation) : Except LookupFault Unit := do
  let table ← s.requireTable o.table
  match o.namedColumns.find? fun c => !Identifier.isImplicit c && !table.columns.contains c with
  | some c => .error (.column o.table c)
  | none => .ok ()

/-- Finds the first table or column that one of the operations names and the schema does not
have. -/
def checkOperations (s : Schema) (operations : List Operation) : Except LookupFault Unit :=
  operations.forM s.checkOperation

end Schema

end TableReplica
