import TableReplica.Proofs.Schema.Parsed
import TableReplica.Proofs.Value.RoundTrip
import TableReplica.Value.Row

/-!
# Conversion of values and rows

A column whose type is known encodes exactly the values of its type
(`ColumnSchema.exists_encode_iff`), and decoding undoes it. A row whose values are of the types of
their columns comes back from its encoded form without the values that belong to no column of the
table (`Schema.Parsed.conforming_round_trip`).
-/

namespace TableReplica

/-! ## Values -/

namespace ColumnSchema

variable {c : ColumnSchema} {type : ValueType} {value : Value}

theorem exists_encode (typed : c.valueType = .ok type) (conforming : value.conforms type = true) :
    ∃ datum, c.encode value = .ok datum := by
  obtain ⟨key, keyed, byKind⟩ := valueType_eq_ok_iff.mp typed
  rw [encode, typed]
  change ∃ datum, (if value.conforms type = true then _ else _) = Except.ok datum
  rw [if_pos conforming, keyed]
  cases value with
  | scalar s => exact ⟨_, rfl⟩
  | set elements => exact ⟨_, rfl⟩
  | map entries =>
    cases kind : c.kind with
    | map =>
      rw [kind] at byKind
      obtain ⟨mapped, known, -⟩ := byKind
      rw [known]
      exact ⟨_, rfl⟩
    | set | atomic _ | enumeration =>
      rw [kind] at byKind
      subst byKind
      cases conforming

/-- A column encodes the values of its type and no others. -/
theorem exists_encode_iff (typed : c.valueType = .ok type) :
    (∃ datum, c.encode value = .ok datum) ↔ value.conforms type = true := by
  constructor
  · rintro ⟨datum, encoded⟩
    obtain ⟨type', _, typed', conforming, -⟩ := eq_of_encode encoded
    rw [typed] at typed'
    cases typed'
    exact conforming
  · exact exists_encode typed

end ColumnSchema

/-! ## Rows -/

namespace TableSchema

variable {t : TableSchema} {α β : Type} {row : SortedMap String α} {out : SortedMap String β}
  {convert : ColumnSchema → α → Except ConversionFault β}

/-- A row can be converted if each part of it that belongs to a column can be. -/
theorem exists_convertRow (each : ∀ column c part, t.column? column = some c →
    row.get? column = some part → ∃ image, convert c part = .ok image) :
    ∃ out, t.convertRow convert row = .ok out := by
  refine SortedMap.exists_mapValuesExcept fun column located found => ?_
  rw [SortedMap.get?_filterMap, Option.bind_eq_some_iff] at found
  obtain ⟨c, present, found⟩ := found
  obtain ⟨part, given, rfl⟩ := Option.map_eq_some_iff.mp found
  exact each column c part present given

/-- A converted row has the images of those parts that belong to a column. -/
theorem get?_of_convertRow (converted : t.convertRow convert row = .ok out) {column : String}
    {image : β} : out.get? column = some image ↔
      ∃ c part, t.column? column = some c ∧ row.get? column = some part
        ∧ convert c part = .ok image := by
  have images := SortedMap.get?_mapValuesExcept converted column
  rw [SortedMap.get?_filterMap] at images
  rw [column?]
  cases present : t.columns.get? column with
  | none =>
    rw [present] at images
    change out.get? column = none at images
    simp [images]
  | some c =>
    rw [present, Option.bind_some] at images
    cases given : row.get? column with
    | none =>
      rw [given] at images
      change out.get? column = none at images
      simp [images]
    | some part =>
      rw [given] at images
      obtain ⟨image', made, found⟩ := images
      simp [found, made]

/-- A conversion of rows is undone, but for the parts that belong to no column, by one that undoes
it in each column. -/
theorem convertRow_convertRow {back : ColumnSchema → β → Except ConversionFault α}
    (each : ∀ column c part, t.column? column = some c → row.get? column = some part →
      ∃ image, convert c part = .ok image ∧ back c image = .ok part) :
    ∃ out, t.convertRow convert row = .ok out
      ∧ t.convertRow back out = .ok (row.filter fun column _ => t.columns.contains column) := by
  obtain ⟨out, converted⟩ := exists_convertRow fun column c part present given =>
    (each column c part present given).imp fun _ undone => undone.1
  have undone : ∀ column c image, t.column? column = some c → out.get? column = some image →
      ∃ part, row.get? column = some part ∧ back c image = .ok part := by
    intro column c image present found
    obtain ⟨c', part, present', given, made⟩ := (get?_of_convertRow converted).mp found
    rw [present] at present'
    cases present'
    obtain ⟨image', made', undone⟩ := each column c part present given
    rw [made] at made'
    cases made'
    exact ⟨part, given, undone⟩
  have reverts : ∃ kept, t.convertRow back out = .ok kept :=
    exists_convertRow fun column c image present found =>
      (undone column c image present found).imp fun _ undone => undone.2
  obtain ⟨kept, reverted⟩ := reverts
  refine ⟨out, converted, reverted.trans (congrArg Except.ok ?_)⟩
  apply SortedMap.ext_get?
  intro column
  apply Option.ext
  intro part
  rw [get?_of_convertRow reverted, SortedMap.get?_filter, Option.filter_eq_some_iff,
    SortedMap.contains, Option.isSome_iff_exists]
  constructor
  · rintro ⟨c, image, present, found, made⟩
    obtain ⟨part', given, undone⟩ := undone column c image present found
    rw [made] at undone
    cases undone
    exact ⟨given, c, present⟩
  · rintro ⟨given, c, present⟩
    obtain ⟨image, made, undone⟩ := each column c part present given
    exact ⟨c, image, present, (get?_of_convertRow converted).mpr ⟨c, part, present, given, made⟩,
      undone⟩

/-- Whether the values of a row that belong to columns are of the types of these. -/
def Conforms (t : TableSchema) (row : ValueRow) : Prop :=
  ∀ column c value, t.column? column = some c → row.get? column = some value →
    ∃ type, c.valueType = .ok type ∧ value.conforms type = true

theorem Conforms.decodeRow_encodeRow {row : ValueRow} (conforming : t.Conforms row) :
    ∃ wire, t.encodeRow row = .ok wire
      ∧ t.decodeRow wire = .ok (row.filter fun column _ => t.columns.contains column) := by
  refine convertRow_convertRow fun column c value present given => ?_
  obtain ⟨type, typed, conforms⟩ := conforming column c value present given
  obtain ⟨datum, encoded⟩ := ColumnSchema.exists_encode typed conforms
  exact ⟨datum, encoded, ColumnSchema.decode_of_encode encoded⟩

end TableSchema

namespace Schema

variable {s : Schema} {table : String} {t : TableSchema}

theorem encodeRow_eq_ok_iff (present : s.table? table = some t) {row : ValueRow} {wire : WireRow} :
    s.encodeRow table row = .ok wire ↔ t.encodeRow row = .ok wire := by
  rw [encodeRow, requireTable, present]
  exact Except.mapError_eq_ok_iff

theorem decodeRow_eq_ok_iff (present : s.table? table = some t) {row : ValueRow} {wire : WireRow} :
    s.decodeRow table wire = .ok row ↔ t.decodeRow wire = .ok row := by
  rw [decodeRow, requireTable, present]
  exact Except.mapError_eq_ok_iff

/-- In a schema that has been read every column encodes the values of its type and no others, and
gets them back. Rows of such values are encoded too, and come back without the values that belong to
no column of the table. -/
theorem Parsed.conforming_round_trip (parsed : s.Parsed) (present : s.table? table = some t) :
    (∀ column c, t.column? column = some c → ∃ type, c.valueType = .ok type ∧ ∀ value : Value,
        ((∃ datum, c.encode value = .ok datum) ↔ value.conforms type = true)
          ∧ ∀ datum, c.encode value = .ok datum → c.decode datum = .ok value)
      ∧ ∀ row : ValueRow, t.Conforms row → ∃ wire, s.encodeRow table row = .ok wire
        ∧ s.decodeRow table wire = .ok (row.filter fun column _ => t.columns.contains column) := by
  constructor
  · intro column c listed
    obtain ⟨type, typed⟩ := (parsed.resolved present listed).exists_valueType
    exact ⟨type, typed, fun value =>
      ⟨ColumnSchema.exists_encode_iff typed, fun _ => ColumnSchema.decode_of_encode⟩⟩
  · intro row conforming
    obtain ⟨wire, encoded, decoded⟩ := conforming.decodeRow_encodeRow
    exact ⟨wire, (encodeRow_eq_ok_iff present).mpr encoded,
      (decodeRow_eq_ok_iff present).mpr decoded⟩

end Schema

/-! ## An example -/

namespace Sample

/-- The values of a switch: it refers to a port in the database and to one that the same transaction
inserts, and switches have no column for its colour. -/
def values : ValueRow := .ofList [
  ("colour", .scalar (.integer 7)),
  ("name", .scalar (.string "br0")),
  ("ports", .set [.string "2f77b348-9768-4866-b761-89d5177ecda0", .string "new_port"]),
  ("protocols", .scalar (.string "OpenFlow13")),
  ("rates", .map (.ofList [
    (.real ⟨0x3FF8000000000000⟩, .integer 2), (.real ⟨0x8000000000000000⟩, .integer (-1))]))]

theorem values_conform : switches.Conforms values := by
  intro column c value listed given
  have member : (column, value) ∈
      [("colour", _), ("name", _), ("ports", _), ("protocols", _), ("rates", _)] :=
    SortedMap.get?_eq_some_iff.mp given
  simp only [List.mem_cons, Prod.mk.injEq, List.not_mem_nil, or_false] at member
  rcases member with ⟨rfl, rfl⟩ | ⟨rfl, rfl⟩ | ⟨rfl, rfl⟩ | ⟨rfl, rfl⟩ | ⟨rfl, rfl⟩
  · cases listed
  all_goals
    cases listed
    exact ⟨_, rfl, rfl⟩

end Sample

/-- All values of the switch come back but its colour; a port alone, which is no set of ports, is
not encoded. -/
theorem Schema.Parsed.conforming_round_trip_switch :
    Sample.network.Parsed ∧ Sample.switches.Conforms Sample.values
      ∧ (¬ ∃ datum, Sample.ports.encode (.scalar (.string "new_port")) = .ok datum)
      ∧ ∃ wire, Sample.network.encodeRow "Switch" Sample.values = .ok wire
        ∧ Sample.network.decodeRow "Switch" wire = .ok (Sample.values.erase "colour") := by
  have present : Sample.network.table? "Switch" = some Sample.switches := rfl
  obtain ⟨columns, rows⟩ := conforming_round_trip Sample.network_parsed present
  refine ⟨Sample.network_parsed, Sample.values_conform, ?_,
    rows Sample.values Sample.values_conform⟩
  obtain ⟨type, typed, each⟩ := columns "ports" Sample.ports rfl
  cases typed
  intro encoded
  cases (each _).1.mp encoded

end TableReplica
