import TableReplica.Record.Layout

/-!
# Registries

The record types that an application uses for a database, one for each table. Registering goes on
until the first type that has no layout or whose table is taken.
-/

namespace TableReplica

/-- The record types of an application by table. -/
structure Registry where
  /-- The name of the database that the types are meant for. -/
  name : String
  layouts : SortedMap String Layout
  /-- Every type is found under its own table. -/
  keyed : ∀ table l, layouts.get? table = some l → l.table = table

namespace Registry

/-- The registry without record types. -/
def empty (name : String) : Registry := ⟨name, .empty, by intro _ _ found; cases found⟩

/-- The registry with one more layout, which takes the place of its table. -/
def insert (g : Registry) (l : Layout) : Registry where
  name := g.name
  layouts := g.layouts.insert l.table l
  keyed := by
    intro table l' found
    rw [SortedMap.get?_insert] at found
    split at found
    next same =>
      cases found
      exact same.symm
    next => exact g.keyed table l' found

/-- Registers one more record type. -/
def register (g : Registry) (t : RecordType) : Except RegistrationFault Registry := do
  let l ← Layout.ofType t
  if g.layouts.contains l.table then .error (.duplicateTable l.table) else return g.insert l

/-- Registers record types in order. -/
def ofTypes (name : String) (types : List RecordType) : Except RegistrationFault Registry :=
  types.foldlM register (empty name)

/-- The number of record types. -/
def size (g : Registry) : Nat := g.layouts.size

/-- Whether there is no record type. -/
def isEmpty (g : Registry) : Bool := g.layouts.isEmpty

/-- The tables that have a record type. -/
def tables (g : Registry) : List String := g.layouts.keys

/-- The layout of the records of a table. -/
def layout? (g : Registry) (table : String) : Option Layout := g.layouts.get? table

/-- A record of a table whose fields have not been set, the zero-valued default that is derived for
its record type. -/
def blank? (g : Registry) (table : String) : Option Record := (g.layout? table).map Layout.blank

/-- The table for which a record type is registered. -/
def tableFor? (g : Registry) (t : RecordType) : Option String :=
  match g.layout? t.table with
  | some l => if l.type = t then some t.table else none
  | none => none

/-! ## Registries against schemas -/

/-- Checks that a column of a table holds values of the type of a field. Columns that every table
has are not checked. -/
def checkField (schema : TableSchema) (table : String) (f : Field) :
    Except RegistrationFault Unit :=
  if Identifier.isImplicit f.column then .ok ()
  else
    match (schema.column? f.column).bind fun c => c.valueType.toOption with
    | none => .error (.columnNotInSchema table f.column)
    | some expected =>
      if expected = f.type.valueType then .ok ()
      else .error (.columnTypeMismatch table f.column expected f.type.valueType)

/-- Checks that a schema has the table of a record type, and columns for its fields. -/
def checkLayout (schema : Schema) (table : String) (l : Layout) : Except RegistrationFault Unit :=
  match schema.table? table with
  | none => .error (.tableNotInSchema table)
  | some t => l.fields.forM (checkField t table)

/-- Finds the first table, and the first field of its record type, that a schema has no place
for. -/
def validate (g : Registry) (schema : Schema) : Except RegistrationFault Unit :=
  g.layouts.toList.forM fun (table, l) => checkLayout schema table l

end Registry

end TableReplica
