import TableReplica.Record.Basic

/-!
# Layouts

A record type can stand for the rows of a table if it names the table, maps no column twice, and has
one text field for the identifier of a row. A `Layout` is a record type for which this is known.
-/

namespace TableReplica

/-- Why record types cannot be registered, or do not fit a schema. -/
inductive RegistrationFault where
  | missingTable (model : String)
  /-- There is no text field for the identifier of a row. -/
  | missingIdentity (model : String)
  | duplicateColumn (model column : String)
  | duplicateTable (table : String)
  | tableNotInSchema (table : String)
  | columnNotInSchema (table column : String)
  | columnTypeMismatch (table column : String) (expected got : ValueType)
deriving DecidableEq

/-- The text of the fault. -/
def RegistrationFault.message : RegistrationFault → String
  | .missingTable model => "model " ++ model ++ " does not declare a table"
  | .missingIdentity model => "model " ++ model ++ " has no string field mapped to column _uuid"
  | .duplicateColumn model column =>
    "model " ++ model ++ " maps column " ++ column ++ " more than once"
  | .duplicateTable table => "table " ++ table ++ " is registered by more than one model"
  | .tableNotInSchema table => "table " ++ table ++ " is not part of the database schema"
  | .columnNotInSchema table column => "table " ++ table ++ " has no column " ++ column
  | .columnTypeMismatch table column expected got =>
    "table " ++ table ++ ", column " ++ column ++ ": model uses " ++ got.name ++ ", schema says "
      ++ expected.name

/-- Whether a field can hold the identifier of a row. -/
def Field.isIdentity (f : Field) : Bool :=
  f.column == Identifier.idColumn && f.type == .scalar .string

/-- A record type that can stand for the rows of a table. -/
structure Layout where
  type : RecordType
  hasTable : type.table ≠ ""
  columnsDistinct : (type.fields.map Field.column).Nodup
  hasIdentity : type.fields.any Field.isIdentity = true
deriving DecidableEq

namespace Layout

/-- The first field, in order, that maps a column again or cannot hold the identifier that it is
mapped to. -/
def fieldFault? (model : String) (before : List String) : List Field → Option RegistrationFault
  | [] => none
  | f :: rest =>
    if before.contains f.column then some (.duplicateColumn model f.column)
    else if f.column == Identifier.idColumn && !f.isIdentity then some (.missingIdentity model)
    else fieldFault? model (f.column :: before) rest

/-- The layout of a record type. -/
def ofType (t : RecordType) : Except RegistrationFault Layout :=
  if hasTable : t.table = "" then .error (.missingTable t.name)
  else
    match fieldFault? t.name [] t.fields with
    | some fault => .error fault
    | none =>
      if sound : (t.fields.map Field.column).Nodup ∧ t.fields.any Field.isIdentity = true then
        .ok ⟨t, hasTable, sound.1, sound.2⟩
      else .error (.missingIdentity t.name)

/-- The table whose rows the records stand for. -/
def table (l : Layout) : String := l.type.table

/-- The fields of the records. -/
def fields (l : Layout) : List Field := l.type.fields

/-- The position of the field that holds the identifier. -/
def identity (l : Layout) : Nat := l.fields.findIdx Field.isIdentity

/-- The position of the field that stands for a column. -/
def fieldOf? (l : Layout) (column : String) : Option Nat :=
  l.fields.findIdx? fun f => f.column == column

/-- The position of the field with a given name. -/
def fieldNamed? (l : Layout) (name : String) : Option Nat :=
  l.fields.findIdx? fun f => f.name == name

/-- A record whose fields have not been set. -/
def blank (l : Layout) : Record := .blank l.type

end Layout

end TableReplica
