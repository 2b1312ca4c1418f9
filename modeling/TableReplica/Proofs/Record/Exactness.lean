import TableReplica.Proofs.Record.Decoding
import TableReplica.Proofs.Replica.Creation

/-!
# Exact decoding

A row that can be decoded gives every field that stands for one of its columns what the column says,
and leaves all other fields as they are; columns without a field have no effect at all. There is one
exception: a field for the versions of rows is passed over, though every table has that column,
since no schema declares it. So decoding is exact if the row has no version for the record, or the
record has it already, and in no other case (`Binding.decodeColumns_exact_iff`).
-/

namespace TableReplica

namespace Binding

variable {b : Binding} {row other : WireRow} {before after : Record} {column : String}
  {datum : Datum} {position : Nat} {c : ColumnSchema} {assigned : Option (Nat × Value)}

/-! ## What a column says -/

/-- Whether a table has a column: it declares it, or every table has it. -/
def Offers (b : Binding) (column : String) : Prop :=
  Identifier.isImplicit column = true ∨ ∃ c, b.schema.column? column = some c

/-- What a datum says in a column: an identifier in the columns that every table has, and what the
table decodes it to in the ones that it declares. -/
inductive Says (b : Binding) (column : String) (datum : Datum) : Value → Prop
  | identifier {id : String} (implicit : Identifier.isImplicit column = true)
    (read : decodeIdentity datum = .ok id) : Says b column datum (.scalar (.string id))
  | declared {c : ColumnSchema} {value : Value} (explicit : Identifier.isImplicit column = false)
    (present : b.schema.column? column = some c) (read : c.decode datum = .ok value) :
    Says b column datum value

/-- Whether a record is another one with what the columns of a row say in the fields that stand for
them, and nothing else. -/
structure DecodesExactly (b : Binding) (row : WireRow) (before after : Record) : Prop where
  written : ∀ column datum position, row.get? column = some datum →
    b.layout.fieldOf? column = some position → b.Offers column →
    ∃ value, b.Says column datum value ∧ after.get? position = some value
  kept : ∀ position, (∀ column datum, row.get? column = some datum →
    b.layout.fieldOf? column = some position → ¬ b.Offers column) →
    after.get? position = before.get? position

theorem decodeIdentity_of_assignment?
    (read : b.assignment? Identifier.idColumn datum = .ok assigned) :
    ∃ id, decodeIdentity datum = .ok id
      ∧ assigned = some (b.layout.identity, .scalar (.string id)) := by
  simp only [assignment?, b.layout.fieldOf?_idColumn, if_true] at read
  obtain ⟨id, identified, done⟩ := Except.bind_eq_ok_iff.mp read
  exact ⟨id, identified, (Except.ok.inj done).symm⟩

theorem decode_of_assignment? (read : b.assignment? column datum = .ok assigned)
    (mapped : b.layout.fieldOf? column = some position) (notIdColumn : column ≠ Identifier.idColumn)
    (present : b.schema.column? column = some c) :
    ∃ value, c.decode datum = .ok value ∧ assigned = some (position, value) := by
  have notIdentity : position ≠ b.layout.identity := by
    rintro rfl
    exact notIdColumn (Layout.fieldOf?_injective mapped b.layout.fieldOf?_idColumn)
  simp only [assignment?, mapped, notIdentity, if_false, present] at read
  obtain ⟨value, decoded, done⟩ := Except.bind_eq_ok_iff.mp read
  exact ⟨value, decoded, (Except.ok.inj done).symm⟩

/-! ## Fields that are written -/

/-- Each datum of a row that can be decoded is read, and what is read is written. -/
theorem assignment?_of_decode (decoded : b.decode row before = .ok after)
    (given : row.get? column = some datum) : ∃ assigned, b.assignment? column datum = .ok assigned
      ∧ ∀ position value, assigned = some (position, value) →
        after.get? position = some value := by
  have each := exists_decode_iff.mp ⟨after, decoded⟩ _ (SortedMap.get?_eq_some_iff.mp given)
  obtain ⟨next, step⟩ := each
  obtain ⟨assigned, read, -⟩ := decodeColumn_eq_ok_iff.mp step
  refine ⟨assigned, read, fun position value written => ?_⟩
  exact get?_of_decode decoded given (written ▸ read)

/-- The identifier in a row is written. -/
theorem get?_identity_of_decode (decoded : b.decode row before = .ok after)
    (given : row.get? Identifier.idColumn = some datum) :
    ∃ id, decodeIdentity datum = .ok id
      ∧ after.get? b.layout.identity = some (.scalar (.string id)) := by
  obtain ⟨assigned, read, written⟩ := assignment?_of_decode decoded given
  obtain ⟨id, identified, same⟩ := decodeIdentity_of_assignment? read
  exact ⟨id, identified, written _ _ same⟩

/-- And so is what the columns say that the table declares. -/
theorem get?_declared_of_decode (decoded : b.decode row before = .ok after)
    (given : row.get? column = some datum) (mapped : b.layout.fieldOf? column = some position)
    (notIdColumn : column ≠ Identifier.idColumn) (present : b.schema.column? column = some c) :
    ∃ value, c.decode datum = .ok value ∧ after.get? position = some value := by
  obtain ⟨assigned, read, written⟩ := assignment?_of_decode decoded given
  obtain ⟨value, decodes, same⟩ := decode_of_assignment? read mapped notIdColumn present
  exact ⟨value, decodes, written _ _ same⟩

/-! ## Fields that are left alone -/

/-- A field is left alone unless it is the one for the identifier, or stands for a column of the row
that the table declares. -/
theorem get?_of_decode_of_unwritten (decoded : b.decode row before = .ok after)
    (unwritten : ∀ column datum, row.get? column = some datum →
      b.layout.fieldOf? column = some position →
      column ≠ Identifier.idColumn ∧ b.schema.column? column = none) :
    after.get? position = before.get? position := by
  refine (decode_agreeOff decoded).agree position ?_
  rintro ⟨e, listed, target⟩
  have mapped := fieldOf?_of_target? target
  obtain ⟨notIdColumn, absent⟩ := unwritten e.1 e.2 (SortedMap.get?_eq_some_iff.mpr listed) mapped
  have notIdentity : position ≠ b.layout.identity := by
    rintro rfl
    exact notIdColumn (Layout.fieldOf?_injective mapped b.layout.fieldOf?_idColumn)
  rw [target?, mapped, absent] at target
  simp [notIdentity] at target

/-! ## Columns without a field -/

theorem decodeColumn_of_unmapped (unmapped : b.layout.fieldOf? column = none) (r : Record)
    (datum : Datum) : b.decodeColumn r column datum = .ok r := by
  rw [decodeColumn, unmapped]

/-- Columns without a field can be left out of a row. -/
theorem decode_filter (b : Binding) (row : WireRow) (r : Record) :
    b.decode (row.filter fun column _ => (b.layout.fieldOf? column).isSome) r = b.decode row r := by
  rw [decode_eq_foldlM, decode_eq_foldlM, SortedMap.filter, SortedMap.toList, List.foldlM_filter]
  congr 1
  funext r e
  split
  next => rfl
  next unmapped =>
    rw [Option.not_isSome_iff_eq_none] at unmapped
    exact (decodeColumn_of_unmapped unmapped r e.2).symm

/-- Rows with the same data for the fields are decoded alike, whatever else they say. -/
theorem decode_congr (same : ∀ column, b.layout.fieldOf? column ≠ none →
    other.get? column = row.get? column) (r : Record) : b.decode other r = b.decode row r := by
  have sameParts : other.filter (fun column _ => (b.layout.fieldOf? column).isSome) =
      row.filter fun column _ => (b.layout.fieldOf? column).isSome := by
    apply SortedMap.ext_get?
    intro column
    rw [SortedMap.get?_filter, SortedMap.get?_filter]
    cases mapped : b.layout.fieldOf? column with
    | none => cases other.get? column <;> cases row.get? column <;> rfl
    | some position => rw [same column (by simp [mapped])]
  rw [← b.decode_filter other, sameParts, b.decode_filter]

/-! ## All fields -/

theorem isImplicit_iff : Identifier.isImplicit column = true ↔
    column = Identifier.idColumn ∨ column = Identifier.versionColumn := by
  rw [Identifier.isImplicit, Bool.or_eq_true, beq_iff_eq, beq_iff_eq]

theorem versionColumn_ne_idColumn : Identifier.versionColumn ≠ Identifier.idColumn := by decide

/-- What the columns of a row say is written to the fields that stand for them, apart from the
column for versions. -/
theorem exists_says_of_decode (decoded : b.decode row before = .ok after)
    (given : row.get? column = some datum) (mapped : b.layout.fieldOf? column = some position)
    (offers : b.Offers column) (notVersion : column ≠ Identifier.versionColumn) :
    ∃ value, b.Says column datum value ∧ after.get? position = some value := by
  by_cases isIdColumn : column = Identifier.idColumn
  · subst isIdColumn
    cases mapped.symm.trans b.layout.fieldOf?_idColumn
    obtain ⟨id, identified, has⟩ := get?_identity_of_decode decoded given
    exact ⟨_, .identifier rfl identified, has⟩
  · have explicit : ¬ Identifier.isImplicit column = true := by
      simp [isImplicit_iff, isIdColumn, notVersion]
    obtain ⟨c, present⟩ := offers.resolve_left explicit
    obtain ⟨value, decodes, has⟩ := get?_declared_of_decode decoded given mapped isIdColumn present
    exact ⟨value, .declared (Bool.not_eq_true _ ▸ explicit) present decodes, has⟩

/-- Fields that stand for no column of the row, or for one that the table does not have, are left
alone. -/
theorem get?_of_decode_of_unoffered (decoded : b.decode row before = .ok after)
    (unoffered : ∀ column datum, row.get? column = some datum →
      b.layout.fieldOf? column = some position → ¬ b.Offers column) :
    after.get? position = before.get? position := by
  refine get?_of_decode_of_unwritten decoded fun column datum given mapped => ?_
  have lacks := unoffered column datum given mapped
  rw [Offers, isImplicit_iff, not_or, not_or, not_exists] at lacks
  exact ⟨lacks.1.1, Option.eq_none_iff_forall_not_mem.mpr lacks.2⟩

/-- What a row does to a field for versions: the field has what the table decodes, if the table
declares the column after all, and is left alone otherwise. -/
def LeavesVersion (b : Binding) (row : WireRow) (before after : Record) : Prop :=
  ∀ datum position, row.get? Identifier.versionColumn = some datum →
    b.layout.fieldOf? Identifier.versionColumn = some position →
    match b.schema.column? Identifier.versionColumn with
    | none => after.get? position = before.get? position
    | some c => ∃ value, c.decode datum = .ok value ∧ after.get? position = some value

theorem leavesVersion_of_decode (decoded : b.decode row before = .ok after) :
    b.LeavesVersion row before after := by
  intro datum position given mapped
  split
  next absent =>
    refine get?_of_decode_of_unwritten decoded fun column _ _ mapped' => ?_
    obtain rfl := Layout.fieldOf?_injective mapped' mapped
    exact ⟨versionColumn_ne_idColumn, absent⟩
  next c present =>
    exact get?_declared_of_decode decoded given mapped versionColumn_ne_idColumn present

/-- Whether a record has the version that a row says once the row has been decoded: there is no
field for it or the row says none, or the field has it already, or the table declares the column
after all and decodes it to that. -/
def SettlesVersion (b : Binding) (row : WireRow) (before : Record) : Prop :=
  ∀ datum position, row.get? Identifier.versionColumn = some datum →
    b.layout.fieldOf? Identifier.versionColumn = some position →
    ∃ id, decodeIdentity datum = .ok id ∧
      match b.schema.column? Identifier.versionColumn with
      | none => before.get? position = some (.scalar (.string id))
      | some c => c.decode datum = .ok (.scalar (.string id))

/-- Decoding is exact if it is so for the version. -/
theorem decodesExactly_iff_settlesVersion (decoded : b.decode row before = .ok after) :
    b.DecodesExactly row before after ↔ b.SettlesVersion row before := by
  have version := leavesVersion_of_decode decoded
  constructor
  · intro exactly datum position given mapped
    obtain ⟨value, said, has⟩ := exactly.written _ _ _ given mapped (.inl rfl)
    cases said with
    | declared explicit _ _ => cases explicit
    | @identifier id _ identified =>
      refine ⟨id, identified, ?_⟩
      have left := version datum position given mapped
      split
      next absent =>
        rw [absent] at left
        rw [← left, has]
      next c present =>
        rw [present] at left
        obtain ⟨value, decodes, has'⟩ := left
        rw [decodes, ← Option.some.inj (has'.symm.trans has)]
  · intro settles
    refine ⟨fun column datum position given mapped offers => ?_,
      fun _ => get?_of_decode_of_unoffered decoded⟩
    by_cases isVersion : column = Identifier.versionColumn
    · subst isVersion
      obtain ⟨id, identified, settled⟩ := settles datum position given mapped
      refine ⟨_, .identifier rfl identified, ?_⟩
      have left := version datum position given mapped
      cases present : b.schema.column? Identifier.versionColumn with
      | none =>
        rw [present] at settled left
        rw [left, settled]
      | some c =>
        rw [present] at settled left
        obtain ⟨value, decodes, has⟩ := left
        rw [has, Except.ok.inj (decodes.symm.trans settled)]
    · exact exists_says_of_decode decoded given mapped offers isVersion

/-- Setting fields one after the other succeeds exactly if all columns can be decoded, and makes the
same record then. -/
theorem decodeColumns_eq_ok_iff : b.decodeColumns before row.toList = (after, .ok ()) ↔
    b.decode row before = .ok after := by
  rw [decode_eq_foldlM]
  induction row.toList generalizing before with
  | nil => simp [decodeColumns, pure, Except.pure]
  | cons e rest ih =>
    rw [decodeColumns, List.foldlM_cons]
    cases b.decodeColumn before e.1 e.2 with
    | error fault => simp [bind, Except.bind]
    | ok next => exact ih

/-- A row that can be decoded writes what its columns say to the fields that stand for them, apart
from the column for versions, and leaves all other fields as they are. A field for versions is left
alone, unless the table declares the column. What the row says in columns without a field makes no
difference. So the record has in all fields what the columns of the row say, and is unchanged
elsewhere, exactly if this is so for the version. -/
theorem decodeColumns_exact_iff (decoded : b.decodeColumns before row.toList = (after, .ok ())) :
    (∀ column datum position, row.get? column = some datum →
        b.layout.fieldOf? column = some position → b.Offers column →
        column ≠ Identifier.versionColumn →
        ∃ value, b.Says column datum value ∧ after.get? position = some value)
      ∧ (∀ position, (∀ column datum, row.get? column = some datum →
        b.layout.fieldOf? column = some position → ¬ b.Offers column) →
        after.get? position = before.get? position)
      ∧ b.LeavesVersion row before after
      ∧ (∀ other : WireRow, (∀ column, b.layout.fieldOf? column ≠ none →
        other.get? column = row.get? column) →
        b.decodeColumns before other.toList = (after, .ok ()))
      ∧ (b.DecodesExactly row before after ↔ b.SettlesVersion row before) := by
  rw [decodeColumns_eq_ok_iff] at decoded
  refine ⟨fun _ _ _ => exists_says_of_decode decoded,
    fun _ => get?_of_decode_of_unoffered decoded, leavesVersion_of_decode decoded,
    fun other same => ?_, decodesExactly_iff_settlesVersion decoded⟩
  rw [decodeColumns_eq_ok_iff, decode_congr same, decoded]

end Binding

/-! ## An example -/

namespace Sample

/-- Records that stand for bridges and have a field for the version of the row, but none for the
kind of datapath. -/
def versionedBridge : Layout where
  type := {
    name := "VersionedBridge"
    table := "Bridge"
    fields := [⟨"uuid", "_uuid", .scalar .string⟩, ⟨"version", "_version", .scalar .string⟩,
      ⟨"name", "name", .scalar .string⟩] }
  hasTable := by decide
  columnsDistinct := by decide
  hasIdentity := by decide

/-- Such a record. -/
def versionedRecord (id version name : String) : Record :=
  ⟨versionedBridge.type, (id, version, name, ())⟩

/-- The row of a bridge, with a number for the kind of datapath. -/
def versionedRow : WireRow :=
  .ofList [("_uuid", .atom (.uuid "1")), ("_version", .atom (.uuid "2")),
    ("datapath_type", .atom (.integer 0)), ("name", .atom (.string "br0"))]

end Sample

/-- The row of a bridge is decoded exactly onto a record that has the version of the row already,
whatever the row says in the column without a field. -/
theorem Binding.decodeColumns_exact_known_version :
    Binding.decodeColumns ⟨Sample.bridges, Sample.versionedBridge⟩
        (Sample.versionedRecord "" "2" "") Sample.versionedRow.toList =
        (Sample.versionedRecord "1" "2" "br0", .ok ())
      ∧ Binding.DecodesExactly ⟨Sample.bridges, Sample.versionedBridge⟩ Sample.versionedRow
        (Sample.versionedRecord "" "2" "") (Sample.versionedRecord "1" "2" "br0") := by
  have decoded : Binding.decodeColumns ⟨Sample.bridges, Sample.versionedBridge⟩
      (Sample.versionedRecord "" "2" "") Sample.versionedRow.toList =
      (Sample.versionedRecord "1" "2" "br0", .ok ()) := rfl
  refine ⟨decoded, (decodeColumns_exact_iff decoded).2.2.2.2.mpr ?_⟩
  intro datum position given mapped
  cases given
  cases mapped
  exact ⟨"2", rfl, rfl⟩

/-- Decoded onto a blank record, it leaves the field for the version empty. -/
theorem Binding.decodeColumns_forgets_version :
    Binding.decodeColumns ⟨Sample.bridges, Sample.versionedBridge⟩
        Sample.versionedBridge.blank Sample.versionedRow.toList =
        (Sample.versionedRecord "1" "" "br0", .ok ())
      ∧ Sample.versionedRow.get? Identifier.versionColumn = some (.atom (.uuid "2"))
      ∧ Sample.versionedBridge.fieldOf? Identifier.versionColumn = some 1
      ∧ (Sample.versionedRecord "1" "" "br0").get? 1 ≠ some (.scalar (.string "2"))
      ∧ ¬ Binding.DecodesExactly ⟨Sample.bridges, Sample.versionedBridge⟩ Sample.versionedRow
        Sample.versionedBridge.blank (Sample.versionedRecord "1" "" "br0") := by
  refine ⟨rfl, rfl, rfl, by decide, fun exactly => ?_⟩
  obtain ⟨value, said, has⟩ := exactly.written Identifier.versionColumn _ 1 rfl rfl (.inl rfl)
  cases said with
  | declared explicit _ _ => cases explicit
  | identifier _ identified =>
    cases identified
    exact absurd has (by decide)

end TableReplica
