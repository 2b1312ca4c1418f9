import TableReplica.Proofs.Failure
import TableReplica.Proofs.Sorted
import TableReplica.Schema.Reading
import TableReplica.Value.Coding

/-!
# Schemas that have been read

A schema that has been read from a text or from a JSON value is made of columns whose types are
resolved: an atomic type alone, or a type in full together with the kind of column that it makes
(`Schema.Parsed.resolved`). The types of the elements of such a column are always known, so none of
its values is ever refused for an incomplete type (`ColumnSchema.Resolved.exists_valueType`).
-/

namespace TableReplica

/-- What the type of a column that has been read consists of. -/
inductive ColumnSchema.Resolved (c : ColumnSchema) : Prop
  | named (type : AtomicType) (kind : c.kind = .atomic type) (bare : c.type? = none)
  | full (t : ColumnType) (kind : c.kind = t.columnKind) (given : c.type? = some t)

/-- A schema that has been read from a text or from a JSON value. -/
inductive Schema.Parsed : Schema → Prop
  | text {s : Schema} (text : String) (read : Schema.ofText text = .ok s) : Parsed s
  | value {s : Schema} (value : Json) (read : Schema.ofJson value = .ok s) : Parsed s

/-! ## Reading -/

theorem ColumnType.resolve_cases {value : Json} {kind : ColumnKind} {type? : Option ColumnType}
    (resolved : ColumnType.resolve value = .ok (kind, type?)) :
    (∃ type, kind = .atomic type ∧ type? = none) ∨ ∃ t, kind = t.columnKind ∧ type? = some t := by
  unfold ColumnType.resolve at resolved
  split at resolved
  next name =>
    obtain ⟨type, -, made⟩ := Except.bind_eq_ok_iff.mp resolved
    cases made
    exact .inl ⟨type, rfl, rfl⟩
  next =>
    split at resolved
    next key given =>
      obtain ⟨key, -, resolved⟩ := Except.bind_eq_ok_iff.mp resolved
      obtain ⟨value, -, resolved⟩ := Except.bind_eq_ok_iff.mp resolved
      obtain ⟨min, -, resolved⟩ := Except.bind_eq_ok_iff.mp resolved
      obtain ⟨max, -, made⟩ := Except.bind_eq_ok_iff.mp resolved
      cases made
      exact .inr ⟨⟨key, value, min, max⟩, rfl, rfl⟩
    next => cases resolved
  next => cases resolved

theorem ColumnSchema.resolved_of_resolve {value : Json} {c : ColumnSchema}
    (resolved : ColumnType.resolve value = .ok (c.kind, c.type?)) : c.Resolved := by
  rcases ColumnType.resolve_cases resolved with ⟨type, kind, bare⟩ | ⟨t, kind, given⟩
  · exact .named type kind bare
  · exact .full t kind given

theorem ColumnDraft.resolved_of_resolve {draft : ColumnDraft} {table column : String}
    {c : ColumnSchema} (made : draft.resolve table column = .ok c) : c.Resolved := by
  rw [ColumnDraft.resolve] at made
  split at made
  next kind type? resolved =>
    cases made
    exact ColumnSchema.resolved_of_resolve resolved
  next => cases made

theorem TableDraft.resolved_of_resolve {draft : TableDraft} {table : String} {t : TableSchema}
    (made : draft.resolve table = .ok t) {column : String} {c : ColumnSchema}
    (present : t.column? column = some c) : c.Resolved := by
  obtain ⟨columns, resolved, made⟩ := Except.bind_eq_ok_iff.mp made
  cases made
  obtain ⟨columnDraft, -, made⟩ := SortedMap.exists_of_get?_mapValuesExcept resolved present
  exact ColumnDraft.resolved_of_resolve made

namespace Schema

variable {s : Schema}

theorem resolved_of_ofSource {document : Source} (read : ofSource document = .ok s)
    {table column : String} {t : TableSchema} {c : ColumnSchema}
    (present : s.table? table = some t) (listed : t.column? column = some c) : c.Resolved := by
  rw [ofSource] at read
  split at read
  next draft =>
    obtain ⟨tables, resolved, made⟩ := Except.bind_eq_ok_iff.mp read
    cases made
    obtain ⟨tableDraft, -, made⟩ := SortedMap.exists_of_get?_mapValuesExcept resolved present
    exact TableDraft.resolved_of_resolve made listed
  next => cases read

/-- The columns of a schema that has been read have resolved types. -/
theorem Parsed.resolved (parsed : s.Parsed) {table column : String} {t : TableSchema}
    {c : ColumnSchema} (present : s.table? table = some t) (listed : t.column? column = some c) :
    c.Resolved := by
  cases parsed with
  | text text read =>
    rw [ofText] at read
    split at read
    next document => exact resolved_of_ofSource read present listed
    next => cases read
  | value value read => exact resolved_of_ofSource read present listed

end Schema

/-! ## The types of elements -/

namespace ColumnSchema

variable {c : ColumnSchema}

theorem keyType_of_full {t : ColumnType} (kind : c.kind = t.columnKind) (given : c.type? = some t) :
    c.keyType = .ok t.key.kind := by
  rw [keyType, kind, given, ColumnType.columnKind]
  split_ifs <;> rfl

theorem mappedType_of_full {t : ColumnType} {mapped : BaseType} (given : c.type? = some t)
    (value : t.value = some mapped) : c.mappedType = .ok mapped.kind := by
  obtain ⟨key, _, min, max⟩ := t
  cases value
  rw [mappedType, given]

namespace Resolved

theorem kind_eq {t : ColumnType} (resolved : c.Resolved) (given : c.type? = some t) :
    c.kind = t.columnKind := by
  cases resolved with
  | named _ _ bare => cases bare.symm.trans given
  | full t' kind given' =>
    cases given'.symm.trans given
    exact kind

theorem exists_keyType (resolved : c.Resolved) : ∃ key, c.keyType = .ok key := by
  cases resolved with
  | named type kind bare => exact ⟨type, by rw [keyType, kind]⟩
  | full t kind given => exact ⟨t.key.kind, keyType_of_full kind given⟩

theorem exists_mappedType (resolved : c.Resolved) (isMap : c.kind = .map) :
    ∃ mapped, c.mappedType = .ok mapped := by
  cases resolved with
  | named type kind bare =>
    rw [isMap] at kind
    cases kind
  | full t kind given =>
    rw [isMap, ColumnType.columnKind] at kind
    split_ifs at kind with mapping
    obtain ⟨mapped, value⟩ := Option.isSome_iff_exists.mp mapping
    exact ⟨mapped.kind, mappedType_of_full given value⟩

theorem exists_valueType (resolved : c.Resolved) : ∃ type, c.valueType = .ok type := by
  obtain ⟨key, keyed⟩ := resolved.exists_keyType
  rw [valueType, keyed]
  cases kind : c.kind with
  | map =>
    obtain ⟨mapped, known⟩ := resolved.exists_mappedType kind
    rw [known]
    exact ⟨_, rfl⟩
  | set | atomic _ | enumeration => exact ⟨_, rfl⟩

end Resolved

end ColumnSchema

/-! ## An example -/

namespace Sample

/-- The type of a column for any number of the values of an enumeration, as a database describes
it. -/
def protocolsType : Json :=
  .object [
    ("key", .object [
      ("type", .string "string"),
      ("enum", .array [.string "set", .array [.string "OpenFlow10", .string "OpenFlow13"]])]),
    ("min", .ofInt 0), ("max", .string "unlimited")]

/-- A schema with a table of switches, as a database describes it. -/
def networkDocument : Json :=
  .object [
    ("name", .string "Sample"),
    ("tables", .object [
      ("Switch", .object [
        ("columns", .object [
          ("name", .object [("type", .string "string")]),
          ("protocols", .object [("type", protocolsType)]),
          ("ports", .object [("type", .object [
            ("key", .object [("type", .string "uuid"), ("refTable", .string "Port")]),
            ("min", .ofInt 0), ("max", .string "unlimited")])]),
          ("rates", .object [("type", .object [
            ("key", .string "real"), ("value", .string "integer"),
            ("min", .ofInt 0), ("max", .string "unlimited")])])])])])]

/-- The column for the values of the enumeration. -/
def protocols : ColumnSchema where
  name := "protocols"
  kind := .enumeration
  type? := some {
    key := { kind := .string, enumeration := some [.string "OpenFlow10", .string "OpenFlow13"] }
    value := none
    min := 0
    max := ColumnType.unlimited }

/-- The column for references to ports. -/
def ports : ColumnSchema where
  name := "ports"
  kind := .set
  type? := some {
    key := { kind := .uuid, refTable := some "Port", refStrength := some .strong }
    value := none
    min := 0
    max := ColumnType.unlimited }

/-- The column for a number at each of some rates. -/
def rates : ColumnSchema where
  name := "rates"
  kind := .map
  type? := some {
    key := { kind := .real }
    value := some { kind := .integer }
    min := 0
    max := ColumnType.unlimited }

/-- The table of switches. -/
def switches : TableSchema where
  columns := .ofList [
    ("name", { name := "name", kind := .atomic .string, type? := none }),
    ("ports", ports), ("protocols", protocols), ("rates", rates)]

/-- The schema with that table. -/
def network : Schema where
  name := "Sample"
  tables := .ofList [("Switch", switches)]

theorem network_parsed : network.Parsed := .value networkDocument rfl

end Sample

end TableReplica
