import TableReplica.Schema.Basic
import TableReplica.Json.Print

/-!
# Descriptions of schemas

A summary of a schema in lines of text: its tables, and a short description of the type of each
column.
-/

namespace TableReplica

/-- The table that the type refers to and how strongly, if it does. -/
def BaseType.reference? (b : BaseType) : Option String :=
  b.refTable.map fun table => " [" ++ table ++ " (" ++ (b.refStrength.getD .strong).name ++ ")]"

/-- A short description of the type of a column. -/
def ColumnSchema.describe (c : ColumnSchema) : String :=
  match c.kind, c.type? with
  | .atomic .uuid, some t => "uuid" ++ t.key.reference?.getD ""
  | .atomic a, _ => a.name
  | .enumeration, some t =>
    let values := (t.key.enumeration.getD []).map fun a => a.toJson.text
    "enum (type: " ++ t.key.kind.name ++ "): [" ++ " ".intercalate values ++ "]"
  | .map, some { key, value := some value, .. } =>
    "[" ++ key.kind.name ++ "]" ++ value.kind.name
  | .set, some t =>
    "[]" ++ t.key.reference?.getD t.key.kind.name ++ " (min: " ++ toString t.min.toInt
      ++ ", max: " ++ toString t.max.toInt ++ ")"
  | kind, _ => kind.name

/-- The summary of a schema. -/
def Schema.describe (s : Schema) : String :=
  let column (name : String) (c : ColumnSchema) : String :=
    "\t\t " ++ name ++ " => " ++ c.describe ++ "\n"
  let table (name : String) (t : TableSchema) : String :=
    "\t " ++ name ++ "\n" ++ String.join (t.columns.toList.map fun (name, c) => column name c)
  s.name ++ ", (" ++ s.version ++ ")\n"
    ++ String.join (s.tables.toList.map fun (name, t) => table name t)

end TableReplica
