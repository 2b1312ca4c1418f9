import TableReplica.Identifier
import TableReplica.Wire.Datum

/-!
# Database schemas

The tables of a database, the columns of each table, and the types of columns in full. Which kind of
column a type makes (a scalar, an enumeration, a set or a map) is settled when the schema is read
and kept beside the type, so that nothing has to work it out again.
-/

namespace TableReplica

/-- The types of single elements. -/
inductive AtomicType where
  | integer
  | real
  | boolean
  | string
  | uuid
deriving DecidableEq

namespace AtomicType

/-- The name of an atomic type in a schema. -/
def name : AtomicType → String
  | .integer => "integer"
  | .real => "real"
  | .boolean => "boolean"
  | .string => "string"
  | .uuid => "uuid"

/-- All atomic types. -/
def all : List AtomicType := [.integer, .real, .boolean, .string, .uuid]

/-- The atomic type with a given name. -/
def ofName? (name : String) : Option AtomicType := all.find? fun t => t.name == name

end AtomicType

/-- What a column holds. -/
inductive ColumnKind where
  /-- One element of an atomic type. -/
  | atomic (type : AtomicType)
  /-- One element of an enumeration. -/
  | enumeration
  | set
  | map
deriving DecidableEq

namespace ColumnKind

/-- The name of a kind of column. -/
def name : ColumnKind → String
  | .atomic type => type.name
  | .enumeration => "enum"
  | .set => "set"
  | .map => "map"

/-- All kinds of column. -/
def all : List ColumnKind := AtomicType.all.map .atomic ++ [.enumeration, .set, .map]

/-- The kind of column with a given name. -/
def ofName? (name : String) : Option ColumnKind := all.find? fun k => k.name == name

end ColumnKind

/-- Whether a reference keeps the row it refers to alive. -/
inductive RefStrength where
  | strong
  | weak
deriving DecidableEq

namespace RefStrength

/-- The name of a strength in a schema. -/
def name : RefStrength → String
  | .strong => "strong"
  | .weak => "weak"

/-- The strength with a given name. -/
def ofName? (name : String) : Option RefStrength := [strong, weak].find? fun r => r.name == name

end RefStrength

/-- The type of the keys or of the values of a column, with its constraints. -/
structure BaseType where
  kind : AtomicType
  enumeration : Option (List Atom) := none
  minInteger : Option Int64 := none
  maxInteger : Option Int64 := none
  minReal : Option Real64 := none
  maxReal : Option Real64 := none
  minLength : Option UInt64 := none
  maxLength : Option UInt64 := none
  refTable : Option String := none
  refStrength : Option RefStrength := none
deriving DecidableEq

/-- The type of a column in full. -/
structure ColumnType where
  key : BaseType
  value : Option BaseType
  /-- The least number of elements. -/
  min : Int64
  /-- The greatest number of elements, or `ColumnType.unlimited`. -/
  max : Int64
deriving DecidableEq

/-- The `max` of a type without a greatest number of elements. -/
def ColumnType.unlimited : Int64 := -1

/-- A column of a table. -/
structure ColumnSchema where
  name : String
  kind : ColumnKind
  /-- The type in full, unless the schema gives just the name of an atomic type. -/
  type? : Option ColumnType
  ephemeral : Bool := false
  mutable : Bool := true
deriving DecidableEq

/-- A table of a database. -/
structure TableSchema where
  columns : SortedMap String ColumnSchema := .empty
  /-- Groups of columns whose values, taken together, occur in one row only. -/
  indexes : List (List String) := []
  isRoot : Bool := false
  maxRows : Option UInt64 := none
deriving DecidableEq

/-- The column of a table with a given name. -/
def TableSchema.column? (t : TableSchema) (name : String) : Option ColumnSchema :=
  t.columns.get? name

/-- The schema of a database. -/
structure Schema where
  name : String
  version : String := ""
  tables : SortedMap String TableSchema := .empty
deriving DecidableEq

/-- A table or a column that a schema does not have. -/
inductive LookupFault where
  | table (name : String)
  | column (table column : String)
deriving DecidableEq

/-- The text of a failed look-up. -/
def LookupFault.message : LookupFault → String
  | .table name => "table not found: " ++ name
  | .column t c => "table " ++ t ++ " has no column " ++ c

namespace Schema

/-- The table with a given name. -/
def table? (s : Schema) (name : String) : Option TableSchema := s.tables.get? name

/-- The table with a given name, or the reason why there is none. -/
def requireTable (s : Schema) (name : String) : Except LookupFault TableSchema :=
  match s.table? name with
  | some t => .ok t
  | none => .error (.table name)

/-- The column of a table with a given name, or the reason why there is none. -/
def requireColumn (s : Schema) (table column : String) : Except LookupFault ColumnSchema := do
  match (← s.requireTable table).column? column with
  | some c => .ok c
  | none => .error (.column table column)

end Schema

end TableReplica
