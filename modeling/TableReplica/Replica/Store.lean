import TableReplica.Replica.Delta

/-!
# Stores

The records of the rows of all tables that an application follows. Changes are applied row by row in
the order of table names and row identifiers, each on its own: one that cannot be decoded is
reported and passed over. Changes of other tables are ignored.
-/

namespace TableReplica

/-- The records of one table by the identifiers of their rows. -/
structure StoredTable where
  binding : Binding
  rows : SortedMap String Record := .empty

/-- The change of a row that could not be applied. -/
structure DeltaFault where
  table : String
  row : String
  cause : ConversionFault
deriving DecidableEq

/-- The cause as a fault of the library. -/
def DeltaFault.fault (d : DeltaFault) : Fault := .conversion d.cause

/-- The text of the fault. -/
def DeltaFault.message (d : DeltaFault) : String :=
  "table " ++ d.table ++ ", row " ++ d.row ++ ": conversion error: " ++ d.cause.message

/-- What applying changes has led to so far. -/
structure Applied (σ : Type) where
  state : σ
  /-- What has happened to rows, in order. -/
  events : List Event := []
  /-- The changes that could not be applied, in order. -/
  faults : List DeltaFault := []

namespace StoredTable

/-- The rows after an effect on one of them. -/
def put (rows : SortedMap String Record) (id : String) : Option Record → SortedMap String Record
  | some r => rows.insert id r
  | none => rows.erase id

/-- Applies the change of one row. -/
def applyRow (a : Applied StoredTable) (id : String) (c : RowChange) : Applied StoredTable :=
  let t := a.state
  match t.binding.effect? id (t.rows.get? id) c with
  | .ok (some effect) =>
    { a with
      state := { t with rows := put t.rows id effect.record }
      events := a.events ++ [effect.event] }
  | .ok none => a
  | .error cause => { a with faults := a.faults ++ [⟨t.binding.table, id, cause⟩] }

/-- Applies the changes of the rows of a table. -/
def apply (t : StoredTable) (changes : TableChanges) : Applied StoredTable :=
  changes.toList.foldl (fun a (id, c) => applyRow a id c) { state := t }

end StoredTable

/-- The records of all tables that an application follows. -/
structure Store where
  schema : Schema
  registry : Registry
  tables : SortedMap String StoredTable

namespace Store

/-- The table of a schema that a record type is registered for. -/
def bind (schema : Schema) (table : String) (l : Layout) :
    Except RegistrationFault StoredTable :=
  match schema.table? table with
  | some t => .ok { binding := ⟨t, l⟩ }
  | none => .error (.tableNotInSchema table)

/-- The store without records, if the schema has a table for every record type. -/
def new (schema : Schema) (registry : Registry) : Except RegistrationFault Store := do
  return ⟨schema, registry, ← registry.layouts.mapValuesExcept (bind schema)⟩

/-- The table with a given name, if the application follows it. -/
def table? (s : Store) (name : String) : Option StoredTable := s.tables.get? name

/-- The binding of the table with a given name. -/
def binding (s : Store) (table : String) : Except LookupFault Binding :=
  match s.table? table with
  | some t => .ok t.binding
  | none => .error (.table table)

/-- The record of a row. -/
def row? (s : Store) (table id : String) : Option Record :=
  (s.table? table).bind fun t => t.rows.get? id

/-- The record of a row, if it is of a type. -/
def rowAs? (s : Store) (t : RecordType) (table id : String) : Option Record :=
  (s.row? table id).filter fun r => r.type = t

/-- Applies the changes of one table. -/
def applyTable (a : Applied Store) (table : String) (changes : TableChanges) : Applied Store :=
  match a.state.table? table with
  | none => a
  | some t =>
    let applied := t.apply changes
    { state := { a.state with tables := a.state.tables.insert table applied.state }
      events := a.events ++ applied.events
      faults := a.faults ++ applied.faults }

/-- Applies the changes of a database. -/
def apply (s : Store) (changes : Changes) : Applied Store :=
  changes.toList.foldl (fun a (table, c) => applyTable a table c) { state := s }

end Store

end TableReplica
