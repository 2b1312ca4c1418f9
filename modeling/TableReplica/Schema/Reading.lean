import TableReplica.Json.Parts
import TableReplica.Schema.Basic
import TableReplica.Text.Quoted

/-!
# Reading schemas

A schema is read in two steps. First the document is checked to have the shape of a schema; what it
says about a type is taken as it is. Then the types of the columns are resolved in the order of
table and column names, and the first that makes no sense is reported with its place.
-/

namespace TableReplica

/-- Why a type in a schema makes no sense. -/
inductive TypeFault where
  | unknownAtomicType (name : String)
  | notType (value : Json)
  | noKey
  | invalidMin (value : Json)
  | unknownMax (text : String)
  | invalidMax (value : Json)
  | notBaseType (value : Json)
  | noAtomicType (value : Json)
  | invalidEnumeration (cause : Malformed)
  | mapEnumeration
  | unknownRefStrength (name : String)
deriving DecidableEq

/-- The text of a fault in a type. -/
def TypeFault.message : TypeFault → String
  | .unknownAtomicType name => "unknown atomic type " ++ Text.quoted name
  | .notType value => "type must be a string or an object, got " ++ value.text
  | .noKey => "type object has no key"
  | .invalidMin value => "invalid min value " ++ value.text
  | .unknownMax text => "unknown max value " ++ Text.quoted text
  | .invalidMax value => "invalid max value " ++ value.text
  | .notBaseType value => "base type must be a string or an object, got " ++ value.text
  | .noAtomicType value => "base type has no valid atomic type: " ++ value.text
  | .invalidEnumeration cause => "invalid enum: malformed datum: " ++ cause.message
  | .mapEnumeration => "enum cannot be a map"
  | .unknownRefStrength name => "unknown refType " ++ Text.quoted name

/-- Why a document is no schema. -/
inductive SchemaFault where
  /-- The document does not have the shape of a schema. -/
  | shape
  | column (table column : String) (reason : TypeFault)
deriving DecidableEq

/-- The text of the fault, if it has one. -/
def SchemaFault.message? : SchemaFault → Option String
  | .shape => none
  | .column t c reason => some ("table " ++ t ++ ", column " ++ c ++ ": " ++ reason.message)

/-! ## Types -/

/-- The atomic type with a given name, or the reason why there is none. -/
def AtomicType.resolve (name : String) : Except TypeFault AtomicType :=
  match ofName? name with
  | some type => .ok type
  | none => .error (.unknownAtomicType name)

namespace BaseType

/-- The values of an enumeration. -/
def resolveEnumeration (value : Json) : Except TypeFault (List Atom) :=
  match Datum.ofJson value with
  | .ok datum =>
    match datum.elements? with
    | some atoms => .ok atoms
    | none => .error .mapEnumeration
  | .error cause => .error (.invalidEnumeration cause)

/-- The strength of a reference; one that is not given is strong. -/
def resolveStrength (name : Option String) (refTable : Option String) :
    Except TypeFault (Option RefStrength) :=
  match name with
  | none => .ok (refTable.map fun _ => .strong)
  | some name =>
    match RefStrength.ofName? name with
    | some strength => .ok (some strength)
    | none => .error (.unknownRefStrength name)

/-- The base type that a JSON value writes. Constraints that are not of the right kind are passed
over. -/
def resolve (value : Json) : Except TypeFault BaseType := do
  match value with
  | .string name => return { kind := ← AtomicType.resolve name }
  | .object _ =>
    let some kind := ((value.member? "type").bind Json.toString?).bind AtomicType.ofName?
      | .error (.noAtomicType value)
    let enumeration ← (value.member? "enum").mapM resolveEnumeration
    let refTable := (value.member? "refTable").bind Json.toString?
    let refStrength ← resolveStrength ((value.member? "refType").bind Json.toString?) refTable
    let number? (name : String) : Option Number := (value.member? name).bind Json.toNumber?
    let natural? (name : String) : Option UInt64 :=
      ((number? name).bind Number.toNat?).map UInt64.ofNat
    return {
      kind, enumeration, refTable, refStrength
      minInteger := (number? "minInteger").bind Number.toInt?
      maxInteger := (number? "maxInteger").bind Number.toInt?
      minReal := (number? "minReal").map Number.toReal
      maxReal := (number? "maxReal").map Number.toReal
      minLength := natural? "minLength"
      maxLength := natural? "maxLength" }
  | other => .error (.notBaseType other)

end BaseType

namespace ColumnType

/-- The least number of elements, which is one unless the type says otherwise. -/
def resolveMin : Option Json → Except TypeFault Int64
  | none => .ok 1
  | some value =>
    match value.toNumber?.bind Number.toInt? with
    | some min => .ok min
    | none => .error (.invalidMin value)

/-- The greatest number of elements, which is one unless the type says otherwise. -/
def resolveMax : Option Json → Except TypeFault Int64
  | none => .ok 1
  | some (.string "unlimited") => .ok unlimited
  | some (.string other) => .error (.unknownMax other)
  | some value =>
    match value.toNumber?.bind Number.toInt? with
    | some max => .ok max
    | none => .error (.invalidMax value)

/-- The kind of column that a type makes: values make a map, and otherwise an enumeration or exactly
one element make a scalar and anything else a set. -/
def columnKind (t : ColumnType) : ColumnKind :=
  if t.value.isSome then .map
  else if t.key.enumeration.isSome then .enumeration
  else if t.min = 1 ∧ t.max = 1 then .atomic t.key.kind
  else .set

/-- The kind and the type of a column that a JSON value writes. -/
def resolve (value : Json) : Except TypeFault (ColumnKind × Option ColumnType) := do
  match value with
  | .string name => return (.atomic (← AtomicType.resolve name), none)
  | .object _ =>
    let some key := value.member? "key" | .error .noKey
    let type : ColumnType := {
      key := ← BaseType.resolve key
      value := ← (value.member? "value").mapM BaseType.resolve
      min := ← resolveMin (value.member? "min")
      max := ← resolveMax (value.member? "max") }
    return (type.columnKind, some type)
  | other => .error (.notType other)

end ColumnType

/-! ## Documents -/

/-- A column as the document describes it. -/
structure ColumnDraft where
  type : Json
  ephemeral : Bool
  mutable : Bool

/-- A table as the document describes it. -/
structure TableDraft where
  columns : SortedMap String ColumnDraft
  indexes : List (List String)
  isRoot : Bool
  maxRows : Option UInt64

/-- A schema as the document describes it. -/
structure SchemaDraft where
  name : String
  version : String
  tables : SortedMap String TableDraft

namespace Source

/-- Reads a field that may be missing. -/
def optional {α : Type} (field : Option Source) (default : α) (read : Source → Option α) :
    Option α :=
  match field with
  | some document => read document
  | none => some default

/-- Reads a text. -/
def readText? : Source → Option String
  | .string s => some s
  | _ => none

/-- Reads a truth value. -/
def readBool? : Source → Option Bool
  | .bool b => some b
  | _ => none

/-- Reads a natural number that may be `null`. -/
def readCount? : Source → Option (Option UInt64)
  | .null => some none
  | .number n => n.toNat?.map fun n => some (.ofNat n)
  | _ => none

/-- Reads the items of an array. -/
def readList? {α : Type} (read : Source → Option α) : Source → Option (List α)
  | .array items => items.mapM read
  | _ => none

/-- Reads the members of an object into a map. -/
def readMap? {α : Type} (read : Source → Option α) : Source → Option (SortedMap String α)
  | .object members => SortedMap.ofList <$> members.mapM fun (name, part) => (name, ·) <$> read part
  | _ => none

/-- The fields of a record by name. -/
def readFields? (fields : List String) (document : Source) : Option (SortedMap String Source) :=
  (Parts.ofSource? document).bind (Parts.fields? fields)

end Source

open Source

/-- Reads the description of a column. -/
def ColumnDraft.read? (document : Source) : Option ColumnDraft := do
  let fields ← document.readFields? ["type", "ephemeral", "mutable"]
  return {
    type := ← (← fields.get? "type").toJson?
    ephemeral := ← optional (fields.get? "ephemeral") false readBool?
    mutable := ← optional (fields.get? "mutable") true readBool? }

/-- Reads the description of a table. -/
def TableDraft.read? (document : Source) : Option TableDraft := do
  let fields ← document.readFields? ["columns", "indexes", "isRoot", "maxRows"]
  return {
    columns := ← readMap? ColumnDraft.read? (← fields.get? "columns")
    indexes := ← optional (fields.get? "indexes") [] (readList? (readList? readText?))
    isRoot := ← optional (fields.get? "isRoot") false readBool?
    maxRows := ← optional (fields.get? "maxRows") none readCount? }

/-- Reads the description of a schema. -/
def SchemaDraft.read? (document : Source) : Option SchemaDraft := do
  let fields ← document.readFields? ["name", "version", "tables"]
  return {
    name := ← readText? (← fields.get? "name")
    version := ← optional (fields.get? "version") "" readText?
    tables := ← readMap? TableDraft.read? (← fields.get? "tables") }

/-! ## Schemas -/

/-- The column of a table that a description makes. -/
def ColumnDraft.resolve (table column : String) (draft : ColumnDraft) :
    Except SchemaFault ColumnSchema :=
  match ColumnType.resolve draft.type with
  | .ok (kind, type?) => .ok ⟨column, kind, type?, draft.ephemeral, draft.mutable⟩
  | .error reason => .error (.column table column reason)

/-- The table that a description makes. -/
def TableDraft.resolve (name : String) (draft : TableDraft) : Except SchemaFault TableSchema := do
  let columns ← draft.columns.mapValuesExcept fun column c => c.resolve name column
  return ⟨columns, draft.indexes, draft.isRoot, draft.maxRows⟩

/-- The schema that a description makes. -/
def SchemaDraft.resolve (draft : SchemaDraft) : Except SchemaFault Schema := do
  let tables ← draft.tables.mapValuesExcept fun name t => t.resolve name
  return ⟨draft.name, draft.version, tables⟩

namespace Schema

/-- The schema that a document writes. -/
def ofSource (document : Source) : Except SchemaFault Schema :=
  match SchemaDraft.read? document with
  | some draft => draft.resolve
  | none => .error .shape

/-- The schema that a JSON text writes. -/
def ofText (text : String) : Except SchemaFault Schema :=
  match Source.read? text with
  | some document => ofSource document
  | none => .error .shape

/-- The schema that a JSON value writes. -/
def ofJson (value : Json) : Except SchemaFault Schema := ofSource (.ofJson value)

end Schema

end TableReplica
