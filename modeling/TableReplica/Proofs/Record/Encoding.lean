import TableReplica.Proofs.Record.Validation

/-!
# Encoding records

The row of a record has a datum for each field that stands for a column of the table and has another
value than an unset one (`Binding.get?_of_encode`). If the table has a column of the right type for
each field, there is such a row, and decoding it onto a new record gives the fields their values
back: an unset one is the one that the new record has already, but for the sign of a zero
(`Binding.recordOf_encode`).
-/

namespace TableReplica

/-! ## Placing what there is -/

namespace SortedMap

variable {κ α β ε : Type} [Ord κ] [Std.TransOrd κ] [Std.LawfulEqOrd κ] {key : β → κ}
  {image : β → Except ε (Option α)} {m m' : SortedMap κ α} {b : β} {l : List β}

/-- The map with the image of an element under its key, if it has one. -/
def placeImage (key : β → κ) (image : β → Except ε (Option α)) (m : SortedMap κ α) (b : β) :
    Except ε (SortedMap κ α) :=
  return match ← image b with
    | some a => m.insert (key b) a
    | none => m

theorem get?_of_placeImage [DecidableEq κ] (placed : placeImage key image m b = .ok m') :
    ∃ a?, image b = .ok a?
      ∧ ∀ k, m'.get? k = if k = key b then a?.or (m.get? k) else m.get? k := by
  obtain ⟨a?, imaged, placed⟩ := Except.bind_eq_ok_iff.mp placed
  refine ⟨a?, imaged, fun k => ?_⟩
  cases placed
  cases a? with
  | none => exact (ite_self _).symm
  | some a => exact get?_insert m (key b) k a

/-- What is placed under different keys stays there. -/
theorem get?_of_foldlM_placeImage [DecidableEq κ] (distinct : (l.map key).Nodup)
    (placed : l.foldlM (placeImage key image) m = .ok m') :
    (∀ k ∉ l.map key, m'.get? k = m.get? k)
      ∧ ∀ b ∈ l, ∃ a?, image b = .ok a? ∧ m'.get? (key b) = a?.or (m.get? (key b)) := by
  induction l generalizing m with
  | nil =>
    cases placed
    exact ⟨fun _ _ => rfl, by simp⟩
  | cons b rest ih =>
    rw [List.foldlM_cons, Except.bind_eq_ok_iff] at placed
    obtain ⟨next, first, later⟩ := placed
    obtain ⟨a?, imaged, placedAt⟩ := get?_of_placeImage first
    rw [List.map_cons, List.nodup_cons] at distinct
    obtain ⟨frame, points⟩ := ih distinct.2 later
    constructor
    · intro k absent
      rw [List.map_cons, List.mem_cons, not_or] at absent
      rw [frame k absent.2, placedAt, if_neg absent.1]
    · intro b' member
      rcases List.mem_cons.mp member with rfl | member
      · exact ⟨a?, imaged, by rw [frame _ distinct.1, placedAt, if_pos rfl]⟩
      · obtain ⟨a'?, imaged', found⟩ := points b' member
        have ne : key b' ≠ key b := fun same =>
          distinct.1 (same ▸ List.mem_map.mpr ⟨b', member, rfl⟩)
        exact ⟨a'?, imaged', by rw [found, placedAt, if_neg ne]⟩

omit [Std.LawfulEqOrd κ] in
theorem exists_foldlM_placeImage (each : ∀ b ∈ l, ∃ a?, image b = .ok a?) :
    ∃ m', l.foldlM (placeImage key image) m = .ok m' := by
  induction l generalizing m with
  | nil => exact ⟨m, rfl⟩
  | cons b rest ih =>
    rw [List.forall_mem_cons] at each
    obtain ⟨⟨a?, imaged⟩, others⟩ := each
    have first : ∃ next, placeImage key image m b = .ok next := by
      rw [placeImage, imaged]
      exact ⟨_, rfl⟩
    obtain ⟨next, first⟩ := first
    obtain ⟨m', later⟩ := ih (m := next) others
    exact ⟨m', by rw [List.foldlM_cons, first]; exact later⟩

end SortedMap

/-! ## Unset values -/

/-- Values that are equal, or zero with either sign. -/
inductive Value.EqualButZeroSign : Value → Value → Prop
  | refl (v : Value) : EqualButZeroSign v v
  | zeros (a b : Real64) (left : a.isZero = true) (right : b.isZero = true) :
    EqualButZeroSign (.scalar (.real a)) (.scalar (.real b))

theorem Scalar.equalButZeroSign_of_isDefault {s s' : Scalar} (sameType : s.type = s'.type)
    (unset : s.isDefault = true) (unset' : s'.isDefault = true) :
    (Value.scalar s).EqualButZeroSign (.scalar s') := by
  cases s <;> cases s' <;> cases sameType
  case integer =>
    rw [beq_iff_eq.mp unset, beq_iff_eq.mp unset']
    exact .refl _
  case real a b => exact .zeros a b unset unset'
  case boolean =>
    rw [(Bool.not_eq_true' _).mp unset, (Bool.not_eq_true' _).mp unset']
    exact .refl _
  case string =>
    rw [String.isEmpty_iff.mp unset, String.isEmpty_iff.mp unset']
    exact .refl _

/-- Unset values of one type are equal but for the sign of a zero. -/
theorem Value.equalButZeroSign_of_isDefault {type : ValueType} {v v' : Value}
    (conforming : v.conforms type = true) (conforming' : v'.conforms type = true)
    (unset : v.isDefault = true) (unset' : v'.isDefault = true) : v.EqualButZeroSign v' := by
  cases v with
  | scalar s =>
    cases type with
    | scalar t =>
      cases v' with
      | scalar s' =>
        have sameType := (beq_iff_eq.mp conforming).trans (beq_iff_eq.mp conforming').symm
        exact Scalar.equalButZeroSign_of_isDefault sameType unset unset'
      | set _ | map _ => cases conforming'
    | set _ | map _ _ => cases conforming
  | set elements =>
    cases type with
    | set t =>
      cases v' with
      | set elements' =>
        rw [List.isEmpty_iff.mp unset, List.isEmpty_iff.mp unset']
        exact .refl _
      | scalar _ | map _ => cases conforming'
    | scalar _ | map _ _ => cases conforming
  | map entries =>
    cases type with
    | map k w =>
      cases v' with
      | map entries' =>
        have same : entries = entries' :=
          SortedMap.ext ((List.isEmpty_iff.mp unset).trans (List.isEmpty_iff.mp unset').symm)
        rw [same]
        exact .refl _
      | scalar _ | set _ => cases conforming'
    | scalar _ | set _ => cases conforming

/-! ## Rows of records -/

/-- The fields of a layout with their positions stand for different columns. -/
theorem Layout.columns_zipIdx_nodup (l : Layout) :
    (l.fields.zipIdx.map fun e => e.1.column).Nodup := by
  have columns : (l.fields.zipIdx.map Prod.fst).map Field.column = l.fields.map Field.column := by
    rw [List.zipIdx_map_fst]
  rw [List.map_map] at columns
  exact columns ▸ l.columnsDistinct

namespace Binding

variable {b : Binding} {r : Record} {row : WireRow} {f : Field} {position : Nat}

theorem encode_eq_foldlM (b : Binding) (r : Record) : b.encode r =
    b.layout.fields.zipIdx.foldlM (SortedMap.placeImage (fun e => e.1.column)
      fun e => b.encodeField r e.2 e.1) .empty := by
  rw [encode]
  congr 1
  funext row ⟨f, position⟩
  refine bind_congr fun a? => ?_
  cases a? <;> rfl

/-- The row of a record has under the column of a field the datum of the field, if it has one. -/
theorem get?_of_encode (encoded : b.encode r = .ok row)
    (there : b.layout.fields[position]? = some f) :
    b.encodeField r position f = .ok (row.get? f.column) := by
  rw [encode_eq_foldlM] at encoded
  have points :=
    (SortedMap.get?_of_foldlM_placeImage b.layout.columns_zipIdx_nodup encoded).2
  obtain ⟨d?, field, found⟩ := points (f, position) (List.mk_mem_zipIdx_iff_getElem?.mpr there)
  rw [field, found, SortedMap.get?_empty, Option.or_none]

/-- A row of a record has no other columns than those that fields stand for. -/
theorem exists_field_of_encode (encoded : b.encode r = .ok row) {column : String} {datum : Datum}
    (given : row.get? column = some datum) :
    ∃ (position : Nat) (f : Field), b.layout.fields[position]? = some f ∧ f.column = column := by
  rw [encode_eq_foldlM] at encoded
  have frame := (SortedMap.get?_of_foldlM_placeImage b.layout.columns_zipIdx_nodup encoded).1
  by_contra unmapped
  have absent : column ∉ b.layout.fields.zipIdx.map fun e => e.1.column := by
    intro member
    obtain ⟨⟨f, position⟩, listed, same⟩ := List.mem_map.mp member
    exact unmapped ⟨position, f, List.mk_mem_zipIdx_iff_getElem?.mp listed, same⟩
  cases (frame column absent).symm.trans given

theorem encodeField_of_unlisted (absent : b.schema.column? f.column = none) :
    b.encodeField r position f = .ok none := by
  rw [encodeField, absent]
  exact ite_self _

theorem encodeField_of_unset {value : Value} (has : r.get? position = some value)
    (unset : value.isDefault = true) : b.encodeField r position f = .ok none := by
  rw [encodeField, has]
  cases b.schema.column? f.column <;> simp [unset]

theorem encodeField_of_set {c : ColumnSchema} {value : Value}
    (notIdentity : position ≠ b.layout.identity) (present : b.schema.column? f.column = some c)
    (has : r.get? position = some value) (set : value.isDefault = false) :
    b.encodeField r position f = some <$> c.encode value := by
  rw [encodeField, if_neg notIdentity, present, has]
  simp [set]

/-- A datum in the row of a record is the encoded value of the field for its column. -/
theorem encoded_of_get? (encoded : b.encode r = .ok row) {column : String} {datum : Datum}
    (given : row.get? column = some datum) :
    ∃ position c value, b.layout.fieldOf? column = some position ∧ position ≠ b.layout.identity
      ∧ b.schema.column? column = some c ∧ r.get? position = some value
      ∧ c.encode value = .ok datum := by
  obtain ⟨position, f, there, rfl⟩ := exists_field_of_encode encoded given
  have field := get?_of_encode encoded there
  rw [given, encodeField] at field
  split at field
  next => cases field
  next notIdentity =>
    split at field
    next c value present has =>
      split at field
      next => cases field
      next =>
        obtain ⟨_, image, same⟩ := Except.map_eq_ok_iff.mp field
        cases same
        exact ⟨position, c, value, Layout.fieldOf?_of_getElem? there, notIdentity, present, has,
          image⟩
    next => cases field

end Binding

/-! ## There and back -/

/-- Whether a table declares none of the columns that every table has. -/
def TableSchema.Unreserved (t : TableSchema) : Prop :=
  ∀ column, Identifier.isImplicit column = true → t.column? column = none

namespace Binding

variable {b : Binding} {r : Record} {row : WireRow} {f : Field} {c : ColumnSchema} {position : Nat}

/-- In a table that the record type fits, a field is of the type of its column. -/
theorem valueType_of_fits (fits : b.layout.Fits b.schema) (unreserved : b.schema.Unreserved)
    (there : b.layout.fields[position]? = some f) (present : b.schema.column? f.column = some c) :
    c.valueType = .ok f.type.valueType ∧ position ≠ b.layout.identity := by
  have explicit : Identifier.isImplicit f.column = false := by
    by_contra implicit
    rw [Bool.not_eq_false] at implicit
    cases (unreserved f.column implicit).symm.trans present
  have notIdentity : f.column ≠ Identifier.idColumn := by
    intro same
    rw [same] at explicit
    cases explicit
  exact ⟨fits.valueType_eq (List.mem_of_getElem? there) explicit present,
    Layout.ne_identity there notIdentity⟩

theorem exists_encode (fits : b.layout.Fits b.schema) (unreserved : b.schema.Unreserved)
    (typed : r.type = b.layout.type) : ∃ row, b.encode r = .ok row := by
  rw [encode_eq_foldlM]
  refine SortedMap.exists_foldlM_placeImage ?_
  rintro ⟨f, position⟩ listed
  have there := List.mk_mem_zipIdx_iff_getElem?.mp listed
  cases present : b.schema.column? f.column with
  | none => exact ⟨none, encodeField_of_unlisted present⟩
  | some c =>
    obtain ⟨columnTyped, notIdentity⟩ := valueType_of_fits fits unreserved there present
    obtain ⟨held, has⟩ := Layout.exists_held typed there
    cases unset : (f.type.toValue held).isDefault with
    | true => exact ⟨none, encodeField_of_unset has unset⟩
    | false =>
      obtain ⟨datum, image⟩ :=
        ColumnSchema.exists_encode columnTyped (f.type.conforms_toValue held)
      exact ⟨some datum, by rw [encodeField_of_set notIdentity present has unset, image]; rfl⟩

/-- A datum in the row of a record assigns to the field for its column the value it has. -/
theorem assignment?_of_encode (encoded : b.encode r = .ok row) {column : String} {datum : Datum}
    (given : row.get? column = some datum) : ∃ position value,
      b.assignment? column datum = .ok (some (position, value)) ∧ r.get? position = some value := by
  obtain ⟨position, c, value, mapped, notIdentity, present, has, image⟩ :=
    encoded_of_get? encoded given
  have read := ColumnSchema.decode_of_encode image
  exact ⟨position, value, assignment?_column mapped notIdentity present read, has⟩

theorem exists_decode_of_encode (typed : r.type = b.layout.type)
    (encoded : b.encode r = .ok row) : ∃ after, b.decode row b.layout.blank = .ok after := by
  refine exists_decode_iff.mpr ?_
  rintro ⟨column, datum⟩ listed
  obtain ⟨position, value, read, has⟩ :=
    assignment?_of_encode encoded (SortedMap.get?_eq_some_iff.mpr listed)
  have taken : b.layout.type.takes position value = true := by
    obtain ⟨f, there, -⟩ := Layout.column_of_fieldOf? (fieldOf?_of_target?
      (target?_of_assignment? read))
    obtain ⟨held, has'⟩ := Layout.exists_held typed there
    cases has.symm.trans has'
    refine (Layout.takes_of_getElem? (r := b.layout.blank) rfl there _).trans ?_
    rw [FieldType.ofValue?_toValue, Option.isSome_some]
  obtain ⟨after, changed⟩ := b.layout.blank.exists_set taken
  exact ⟨after, decodeColumn_eq_ok_iff.mpr ⟨_, read, changed⟩⟩

/-- A record has the values of another one in all fields that stand for a column of the table, but
for the sign of a zero, and those of a new record in the fields that do not, apart from the one for
the identifier. -/
structure Restores (b : Binding) (r r' : Record) : Prop where
  sameType : r'.type = r.type
  columns : ∀ position f c, b.layout.fields[position]? = some f →
    b.schema.column? f.column = some c → ∃ value value', r.get? position = some value
      ∧ r'.get? position = some value' ∧ value.EqualButZeroSign value'
  others : ∀ position f, b.layout.fields[position]? = some f → f.column ≠ Identifier.idColumn →
    b.schema.column? f.column = none → r'.get? position = b.layout.blank.get? position

/-- The record of the row of a record has its values in the fields of the columns that the table
declares: a value that is not unset is in the row, and a new record has an unset one. -/
theorem get?_of_recordOf_encode (fits : b.layout.Fits b.schema)
    (unreserved : b.schema.Unreserved) (typed : r.type = b.layout.type)
    (encoded : b.encode r = .ok row) {id : String} {r' : Record}
    (made : b.recordOf id b.layout.blank row = .ok r')
    (there : b.layout.fields[position]? = some f) (present : b.schema.column? f.column = some c) :
    ∃ value value', r.get? position = some value ∧ r'.get? position = some value'
      ∧ value.EqualButZeroSign value' := by
  have notIdentity := (valueType_of_fits fits unreserved there present).2
  obtain ⟨held, has⟩ := Layout.exists_held typed there
  have field := get?_of_encode encoded there
  cases unset : (f.type.toValue held).isDefault with
  | true =>
    rw [encodeField_of_unset has unset] at field
    have kept := get?_of_recordOf_of_absent made there notIdentity (Except.ok.inj field).symm
    rw [Layout.get?_blank there] at kept
    refine ⟨_, _, has, kept, ?_⟩
    exact Value.equalButZeroSign_of_isDefault (f.type.conforms_toValue held)
      (f.type.conforms_toValue f.type.blank) unset f.type.isDefault_blank
  | false =>
    rw [encodeField_of_set notIdentity present has unset] at field
    obtain ⟨datum, image, given⟩ := Except.map_eq_ok_iff.mp field
    have read := assignment?_column (Layout.fieldOf?_of_getElem? there) notIdentity present
      (ColumnSchema.decode_of_encode image)
    exact ⟨_, _, has, get?_of_recordOf_of_given made given.symm notIdentity read, .refl _⟩

/-- A record of a type that fits the table has a row, and the record of the row restores it. -/
theorem recordOf_encode (fits : b.layout.Fits b.schema) (unreserved : b.schema.Unreserved)
    (typed : r.type = b.layout.type) : ∃ row, b.encode r = .ok row
      ∧ ∀ id, ∃ r', b.recordOf id b.layout.blank row = .ok r' ∧ b.Restores r r' := by
  obtain ⟨row, encoded⟩ := exists_encode fits unreserved typed
  refine ⟨row, encoded, fun id => ?_⟩
  obtain ⟨r', made⟩ := exists_recordOf_of_decode id rfl (exists_decode_of_encode typed encoded)
  refine ⟨r', made, (type_of_recordOf made).trans typed.symm, ?_, ?_⟩
  · intro position f c there present
    exact get?_of_recordOf_encode fits unreserved typed encoded made there present
  · intro position f there notIdColumn absent
    have none := get?_of_encode encoded there
    rw [encodeField_of_unlisted absent] at none
    exact get?_of_recordOf_of_absent made there (Layout.ne_identity there notIdColumn)
      (Except.ok.inj none).symm

end Binding

end TableReplica
