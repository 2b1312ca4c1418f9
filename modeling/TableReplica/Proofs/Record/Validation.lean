import TableReplica.Proofs.Record.Decoding
import TableReplica.Proofs.Value.Decoding

/-!
# Record types that fit a schema

A registry is valid for a schema if the schema has all of its tables and, for every field that does
not stand for a column which every table has, a column with values of the type of the field
(`Registry.validate_eq_ok_iff`). So the columns of such a table decode values of the types of the
fields, which a record takes with two exceptions: a field for at most one element has no room for
more of them, and a column for versions, about which nothing has been checked, may have values of
any type (`Binding.exists_decode_iff_holdable`).
-/

namespace TableReplica

/-! ## Valid registries -/

/-- Whether a table has a column with values of the type of the field for each field of a layout,
but for the columns that every table has. -/
def Layout.Fits (l : Layout) (t : TableSchema) : Prop :=
  ∀ f ∈ l.fields, Identifier.isImplicit f.column = false →
    ∃ c, t.column? f.column = some c ∧ c.valueType = .ok f.type.valueType

theorem Layout.Fits.valueType_eq {l : Layout} {t : TableSchema} (fits : l.Fits t) {f : Field}
    (member : f ∈ l.fields) (explicit : Identifier.isImplicit f.column = false) {c : ColumnSchema}
    (present : t.column? f.column = some c) : c.valueType = .ok f.type.valueType := by
  obtain ⟨c', present', typed⟩ := fits f member explicit
  cases present.symm.trans present'
  exact typed

namespace Registry

theorem checkField_eq_ok_iff {t : TableSchema} {table : String} {f : Field} :
    checkField t table f = .ok () ↔ (Identifier.isImplicit f.column = false →
      ∃ c, t.column? f.column = some c ∧ c.valueType = .ok f.type.valueType) := by
  rw [checkField]
  cases Identifier.isImplicit f.column with
  | true => simp
  | false =>
    cases t.column? f.column with
    | none => simp
    | some c =>
      cases typed : c.valueType with
      | error fault => simp [typed, Except.toOption]
      | ok type => simp [typed, Except.toOption]

theorem checkLayout_eq_ok_iff {schema : Schema} {table : String} {l : Layout} :
    checkLayout schema table l = .ok () ↔ ∃ t, schema.table? table = some t ∧ l.Fits t := by
  rw [checkLayout]
  cases schema.table? table with
  | none => simp
  | some t =>
    simp only [Except.forM_eq_ok_iff, checkField_eq_ok_iff, Option.some.injEq, exists_eq_left',
      Layout.Fits]

/-- A registry is valid for a schema if the schema has a table for each of its layouts, which the
layout fits. -/
theorem validate_eq_ok_iff {g : Registry} {schema : Schema} : g.validate schema = .ok () ↔
    ∀ table l, g.layout? table = some l → ∃ t, schema.table? table = some t ∧ l.Fits t := by
  rw [validate, Except.forM_eq_ok_iff]
  constructor
  · intro checked table l registered
    exact checkLayout_eq_ok_iff.mp (checked (table, l) (SortedMap.get?_eq_some_iff.mp registered))
  · rintro fit ⟨table, l⟩ listed
    exact checkLayout_eq_ok_iff.mpr (fit table l (SortedMap.get?_eq_some_iff.mpr listed))

end Registry

/-! ## Rows and what a record can hold of them -/

namespace Binding

/-- A row has a datum for a field that is not the one for the identifier, in a column that the table
has. -/
structure Supplies (b : Binding) (row : WireRow) (f : Field) (c : ColumnSchema) (datum : Datum) :
    Prop where
  mapped : f ∈ b.layout.fields
  notIdentity : f.column ≠ Identifier.idColumn
  present : b.schema.column? f.column = some c
  given : row.get? f.column = some datum

/-- The columns of a table decode what a row has for the fields, and the identifier in the row is
one. -/
structure Readable (b : Binding) (row : WireRow) : Prop where
  identity : ∀ datum, row.get? Identifier.idColumn = some datum → ∃ id, datum = .atom (.uuid id)
  columns : ∀ f c datum, b.Supplies row f c datum → ∃ value, c.decode datum = .ok value

/-- A row has no more than one element for a field that holds at most one, and in a column for
versions a value of the type of the field. -/
structure Holdable (b : Binding) (row : WireRow) : Prop where
  single : ∀ f c datum element atoms, b.Supplies row f c datum → f.type = .option element →
    datum.Lists atoms → atoms.length ≤ 1
  version : ∀ f c datum value, b.Supplies row f c datum → f.column = Identifier.versionColumn →
    c.decode datum = .ok value → value.conforms f.type.valueType = true

variable {b : Binding} {row : WireRow} {r : Record} {f : Field} {c : ColumnSchema} {column : String}
  {datum : Datum} {value : Value}

/-- A datum for a field is decoded onto a record if the field takes its value. -/
theorem exists_decodeColumn_of_supplies (typed : r.type = b.layout.type)
    (supplies : b.Supplies row f c datum) (read : c.decode datum = .ok value) :
    (∃ after, b.decodeColumn r f.column datum = .ok after) ↔
      (f.type.ofValue? value).isSome = true := by
  obtain ⟨position, there⟩ := List.getElem?_of_mem supplies.mapped
  have assigned : b.assignment? f.column datum = .ok (some (position, value)) :=
    assignment?_column (Layout.fieldOf?_of_getElem? there)
      (Layout.ne_identity there supplies.notIdentity) supplies.present read
  have takes : r.type.takes position value = (f.type.ofValue? value).isSome :=
    Layout.takes_of_getElem? typed there value
  rw [← takes, decodeColumn_eq, assigned, Except.ok_bind]
  constructor
  · rintro ⟨after, changed⟩
    exact Record.takes_of_set changed
  · exact r.exists_set

/-- Any other datum of a row is the identifier or of no use to a record. -/
theorem exists_decodeColumn_of_not_supplies (typed : r.type = b.layout.type)
    (readable : b.Readable row) (given : row.get? column = some datum)
    (unsupplied : ∀ f c, f.column = column → ¬ b.Supplies row f c datum) :
    ∃ after, b.decodeColumn r column datum = .ok after := by
  rw [decodeColumn_eq]
  cases mapped : b.layout.fieldOf? column with
  | none => exact ⟨r, by simp only [assignment?, mapped]; rfl⟩
  | some position =>
    by_cases isIdentity : position = b.layout.identity
    · rw [isIdentity] at mapped
      have isColumn := Layout.fieldOf?_injective mapped b.layout.fieldOf?_idColumn
      subst isColumn
      obtain ⟨id, rfl⟩ := readable.identity datum given
      rw [assignment?_identity mapped rfl]
      exact r.exists_set (typed ▸ b.layout.takes_identity id)
    · cases present : b.schema.column? column with
      | none => exact ⟨r, by simp only [assignment?, mapped, isIdentity, if_false, present]; rfl⟩
      | some c =>
        obtain ⟨f, there, rfl⟩ := Layout.column_of_fieldOf? mapped
        have notIdentity : f.column ≠ Identifier.idColumn := fun same => isIdentity <|
          Option.some.inj (mapped.symm.trans (same ▸ b.layout.fieldOf?_idColumn))
        exact absurd ⟨List.mem_of_getElem? there, notIdentity, present, given⟩
          (unsupplied f c rfl)

/-- A row is decoded onto a record if the fields take the values of the data for them. -/
theorem exists_decode_iff_taken (typed : r.type = b.layout.type) (readable : b.Readable row) :
    (∃ after, b.decode row r = .ok after) ↔ ∀ f c datum value, b.Supplies row f c datum →
      c.decode datum = .ok value → (f.type.ofValue? value).isSome = true := by
  rw [exists_decode_iff]
  constructor
  · intro decodable f c datum value supplies read
    exact (exists_decodeColumn_of_supplies typed supplies read).mp
      (decodable (f.column, datum) (SortedMap.get?_eq_some_iff.mp supplies.given))
  · rintro taken ⟨column, datum⟩ listed
    have given : row.get? column = some datum := SortedMap.get?_eq_some_iff.mpr listed
    by_cases unsupplied : ∀ f c, f.column = column → ¬ b.Supplies row f c datum
    · exact exists_decodeColumn_of_not_supplies typed readable given unsupplied
    · simp only [not_forall, not_not] at unsupplied
      obtain ⟨f, c, rfl, supplies⟩ := unsupplied
      obtain ⟨value, read⟩ := readable.columns f c datum supplies
      exact (exists_decodeColumn_of_supplies typed supplies read).mpr
        (taken f c datum value supplies read)

/-- In a table that the record type fits, what the columns decode is of the types of the fields, but
perhaps for the column of versions. -/
theorem conforms_of_fits (fits : b.layout.Fits b.schema) (supplies : b.Supplies row f c datum)
    (read : c.decode datum = .ok value) (checked : f.column ≠ Identifier.versionColumn) :
    value.conforms f.type.valueType = true := by
  have explicit : Identifier.isImplicit f.column = false := by
    simp [Identifier.isImplicit, supplies.notIdentity, checked]
  have typed := fits.valueType_eq supplies.mapped explicit supplies.present
  obtain ⟨key, keyed, decodes⟩ := ColumnSchema.decodes_of_decode read
  obtain ⟨type, typed', conforming⟩ := decodes.conforms keyed
  cases typed.symm.trans typed'
  exact conforming

/-- In a table that the record type fits, a row whose data the columns decode is decoded onto a
record exactly if the record can hold it. -/
theorem exists_decode_iff_holdable (fits : b.layout.Fits b.schema) (typed : r.type = b.layout.type)
    (readable : b.Readable row) : (∃ after, b.decode row r = .ok after) ↔ b.Holdable row := by
  rw [exists_decode_iff_taken typed readable]
  simp only [FieldType.isSome_ofValue?_iff]
  constructor
  · intro taken
    refine ⟨fun f c datum element atoms supplies isOption lists => ?_,
      fun f c datum value supplies _ read => (taken f c datum value supplies read).1⟩
    obtain ⟨value, read⟩ := readable.columns f c datum supplies
    obtain ⟨conforming, room⟩ := taken f c datum value supplies read
    rw [isOption] at conforming room
    cases value with
    | set elements =>
      obtain ⟨atoms', lists', sameLength⟩ := ColumnSchema.lists_of_decode read
      rw [Datum.lists_iff] at lists lists'
      cases lists.symm.trans lists'
      exact Nat.le_trans (Nat.le_of_eq sameLength.symm) room
    | scalar _ | map _ => cases conforming
  · intro holdable f c datum value supplies read
    constructor
    · by_cases version : f.column = Identifier.versionColumn
      · exact holdable.version f c datum value supplies version read
      · exact conforms_of_fits fits supplies read version
    · cases isOption : f.type with
      | option element =>
        cases value with
        | set elements =>
          obtain ⟨atoms, lists, sameLength⟩ := ColumnSchema.lists_of_decode read
          exact Nat.le_trans (Nat.le_of_eq sameLength)
            (holdable.single f c datum element atoms supplies isOption lists)
        | scalar _ | map _ => trivial
      | scalar _ | list _ | map _ _ => trivial

end Binding

end TableReplica
