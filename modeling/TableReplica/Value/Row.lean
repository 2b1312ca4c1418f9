import TableReplica.Fault
import TableReplica.Wire.Clause

/-!
# Rows of values

Coding of whole rows, and of single clauses and mutations, for callers that work with values by
column name. Columns that the table does not have are passed over.
-/

namespace TableReplica

namespace TableSchema

/-- The parts of a row that belong to columns of the table, each one converted by its column; they
are converted in the order of the column names. -/
def convertRow {α β : Type} (t : TableSchema)
    (convert : ColumnSchema → α → Except ConversionFault β) (row : SortedMap String α) :
    Except ConversionFault (SortedMap String β) :=
  (t.columns.filterMap fun name c => (row.get? name).map (c, ·)).mapValuesExcept
    fun _ (c, part) => convert c part

/-- Decodes a row. -/
def decodeRow (t : TableSchema) (row : WireRow) : Except ConversionFault ValueRow :=
  t.convertRow ColumnSchema.decode row

/-- Encodes a row. -/
def encodeRow (t : TableSchema) (row : ValueRow) : Except ConversionFault WireRow :=
  t.convertRow ColumnSchema.encode row

end TableSchema

namespace Schema

/-- Decodes a row of a table. -/
def decodeRow (s : Schema) (table : String) (row : WireRow) : Except Fault ValueRow := do
  (← s.requireTable table).decodeRow row

/-- Encodes a row of a table. -/
def encodeRow (s : Schema) (table : String) (row : ValueRow) : Except Fault WireRow := do
  (← s.requireTable table).encodeRow row

/-- The clause that compares a column with a value. -/
def clause (s : Schema) (table column : String) (comparison : Comparison) (value : Value) :
    Except Fault Clause := do
  return ⟨column, comparison, ← (← s.requireColumn table column).encode value⟩

/-- The mutation that changes a column by a value. -/
def mutation (s : Schema) (table column : String) (mutator : Mutator) (value : Value) :
    Except Fault Mutation := do
  return ⟨column, mutator, ← (← s.requireColumn table column).encode value⟩

end Schema

end TableReplica
