import Mathlib.Data.List.Nodup
import TableReplica.Proofs.Record.Access

/-!
# Fields as parts of a record

A field takes exactly the values of its type that it has room for, and gives back what it has taken;
so do the fields of a record, each without an effect on the others (`Record.fields_lawful`). A field
is set in place: the fields are gone through until the number is that of the position, and nothing
is stored before the value has been taken.

A map may also be held without an order of its keys. Its entries are then listed in some order, and
its column value does not depend on which one.
-/

namespace TableReplica

/-! ## Maps without an order -/

/-- A map whose entries are listed in no particular order. -/
structure LooseMap (κ α : Type) where
  entries : List (κ × α)
  distinct : (entries.map Prod.fst).Nodup

namespace LooseMap

/-- Whether two maps are the same, in whatever order their entries are listed. -/
def Same {κ α : Type} (m n : LooseMap κ α) : Prop := m.entries.Perm n.entries

variable {k v : ScalarType}

theorem distinct_of_taken {entries : SortedMap Scalar Scalar} {l : List (k.Carrier × v.Carrier)}
    (taken : entries.toList.mapM (fun e => ScalarType.ofEntry? k v e.1 e.2) = some l) :
    (l.map Prod.fst).Nodup := by
  have image : l.map (ScalarType.toEntry k v) = entries.toList :=
    Option.map_eq_of_mapM_eq_some (g := fun e => ScalarType.ofEntry? k v e.1 e.2)
      ScalarType.toEntry_of_ofEntry? taken
  have keys : (l.map Prod.fst).map k.toScalar = entries.toList.map Prod.fst := by
    rw [← image, List.map_map, List.map_map]
    rfl
  exact List.Nodup.of_map k.toScalar (keys ▸ entries.keys_nodup)

/-- The column value of a map. -/
def toValue (m : LooseMap k.Carrier v.Carrier) : Value :=
  .map (.ofList (m.entries.map (ScalarType.toEntry k v)))

/-- The map that is held for a column value, if it is one of the types of keys and values. -/
def ofValue? (k v : ScalarType) : Value → Option (LooseMap k.Carrier v.Carrier)
  | .map entries =>
    match taken : entries.toList.mapM fun e => ScalarType.ofEntry? k v e.1 e.2 with
    | some l => some ⟨l, distinct_of_taken taken⟩
    | none => none
  | _ => none

/-- What a field holds for the map, with the entries in the order of their keys. -/
def sorted (m : LooseMap k.Carrier v.Carrier) : (FieldType.map k v).Carrier :=
  SortedMap.ofList m.entries

theorem perm_ofList (m : LooseMap k.Carrier v.Carrier) :
    m.entries.Perm (SortedMap.ofList m.entries).toList := by
  rw [List.perm_ext_iff_of_nodup (m.distinct.of_map _) ((SortedMap.keys_nodup _).of_map _)]
  exact fun e => (SortedMap.mem_ofList_iff m.distinct).symm

theorem sorted_eq_iff {m n : LooseMap k.Carrier v.Carrier} : m.sorted = n.sorted ↔ m.Same n := by
  constructor
  · intro same
    have listed := m.perm_ofList
    rw [show SortedMap.ofList m.entries = SortedMap.ofList n.entries from same] at listed
    exact listed.trans n.perm_ofList.symm
  · intro same
    exact SortedMap.ext
      (SortedMap.toList_ofList_of_perm (same.trans n.perm_ofList) (SortedMap.ascending _))

/-- The order of the entries does not show in the column value. -/
theorem toValue_eq (m : LooseMap k.Carrier v.Carrier) :
    m.toValue = (FieldType.map k v).toValue m.sorted := by
  have ascending := (ScalarType.toEntry_ascending_iff k v _).mpr
    (SortedMap.ofList m.entries).ascending
  have listed := SortedMap.toList_ofList_of_perm (m.perm_ofList.map (ScalarType.toEntry k v))
    ascending
  exact congrArg Value.map (SortedMap.ext (listed.trans (SortedMap.toList_ofList ascending).symm))

/-- A map without an order is held for the same values as one with an order. -/
theorem ofValue?_sorted (k v : ScalarType) (value : Value) :
    (ofValue? k v value).map sorted = (FieldType.map k v).ofValue? value := by
  cases value with
  | map entries =>
    change _ = (entries.toList.mapM fun e => ScalarType.ofEntry? k v e.1 e.2).map SortedMap.ofList
    rw [ofValue?]
    split
    next l taken => exact (congrArg (Option.map SortedMap.ofList) taken).symm
    next refused => exact (congrArg (Option.map SortedMap.ofList) refused).symm
  | scalar _ | set _ => rfl

theorem exists_ofValue?_iff {value : Value} :
    (∃ m, ofValue? k v value = some m) ↔ value.conforms (.map k v) = true := by
  have taken := @FieldType.isSome_ofValue?_iff (.map k v) value
  rw [← ofValue?_sorted, Option.isSome_map, Option.isSome_iff_exists] at taken
  exact taken.trans (and_iff_left trivial)

theorem toValue_of_ofValue? {value : Value} {m n : LooseMap k.Carrier v.Carrier}
    (taken : ofValue? k v value = some m) (same : m.Same n) : n.toValue = value := by
  have held := ofValue?_sorted k v value
  rw [taken, Option.map_some, sorted_eq_iff.mpr same] at held
  rw [toValue_eq]
  exact FieldType.toValue_of_ofValue? held.symm

theorem ofValue?_toValue (m : LooseMap k.Carrier v.Carrier) :
    ∃ n, ofValue? k v m.toValue = some n ∧ m.Same n := by
  have held := ofValue?_sorted k v m.toValue
  rw [toValue_eq, FieldType.ofValue?_toValue, ← toValue_eq] at held
  obtain ⟨n, taken, same⟩ := Option.map_eq_some_iff.mp held
  exact ⟨n, taken, sorted_eq_iff.mp same.symm⟩

end LooseMap

/-! ## Setting in place -/

/-- What the fields of a record hold after an attempt to set the one at a position, and what has
come of it. The first of the fields has some number. -/
def Contents.assign (position : Nat) (value : Value) :
    (fields : List Field) → Nat → Contents fields → Contents fields × Except ConversionFault Unit
  | [], _, held => (held, .error (.noSuchField position))
  | f :: rest, number, (held, others) =>
    if number = position then
      match f.type.ofValue? value with
      | some new => ((new, others), .ok ())
      | none => ((held, others), .error (.typeMismatch f.column f.type.valueType value))
    else
      let (others, result) := assign position value rest (number + 1) others
      ((held, others), result)

/-- A record after an attempt to set the field at a position, and what has come of it. -/
def Record.assign (r : Record) (position : Nat) (value : Value) :
    Record × Except ConversionFault Unit :=
  let (contents, result) := Contents.assign position value r.type.fields 0 r.contents
  (⟨r.type, contents⟩, result)

/-- Why a field cannot be set to a value, if there is one at all. -/
def Field.refusal (position : Nat) (value : Value) : Option Field → ConversionFault
  | none => .noSuchField position
  | some f => .typeMismatch f.column f.type.valueType value

theorem Contents.assign_eq (fields : List Field) (number i : Nat) (held : Contents fields)
    (value : Value) : assign (number + i) value fields number held =
      match set? fields held i value with
      | some new => (new, .ok ())
      | none => (held, .error (Field.refusal (number + i) value fields[i]?)) := by
  induction fields generalizing number i with
  | nil => rfl
  | cons f rest ih =>
    obtain ⟨first, others⟩ := held
    cases i with
    | zero =>
      rw [assign, if_pos (Nat.add_zero number).symm, set?]
      cases f.type.ofValue? value <;> rfl
    | succ i =>
      have later : number + (i + 1) = number + 1 + i := by omega
      rw [assign, if_neg (by omega), later, ih, set?, List.getElem?_cons_succ]
      cases set? rest others i value <;> rfl

namespace Record

/-- To set a field in place is to replace the record, unless the field cannot be set. -/
theorem assign_eq (r : Record) (position : Nat) (value : Value) :
    r.assign position value = match r.set position value with
      | .ok after => (after, .ok ())
      | .error cause => (r, .error cause) := by
  have walked := Contents.assign_eq r.type.fields 0 position r.contents value
  have placed := Contents.set?_isSome r.contents position value
  rw [Nat.zero_add] at walked
  rw [assign, walked]
  cases takes : r.type.takes position value with
  | true =>
    obtain ⟨after, changed⟩ := r.exists_set takes
    obtain ⟨contents, placed, rfl⟩ := set?_of_set changed
    rw [changed, placed]
  | false =>
    rw [← RecordType.takes, takes, Option.isSome_eq_false_iff, Option.isNone_iff_eq_none] at placed
    rw [r.set_eq_error takes, placed]
    rfl

variable {r : Record} {position : Nat} {value : Value}

theorem assign_eq_ok_iff : (r.assign position value).2 = .ok () ↔
    r.set position value = .ok (r.assign position value).1 := by
  rw [assign_eq]
  cases r.set position value <;> simp

theorem assign_eq_error_iff {cause : ConversionFault} :
    (r.assign position value).2 = .error cause ↔ r.set position value = .error cause := by
  rw [assign_eq]
  cases r.set position value <;> simp

/-- A record is left as it is if its field cannot be set. -/
theorem assign_of_error {cause : ConversionFault}
    (refused : (r.assign position value).2 = .error cause) : (r.assign position value).1 = r := by
  rw [assign_eq, assign_eq_error_iff.mp refused]

theorem get?_eq_none_iff : r.get? position = none ↔ r.type.fields.length ≤ position := by
  refine ⟨fun nothing => ?_, Contents.get?_of_length_le r.contents⟩
  rw [← List.getElem?_eq_none_iff, Option.eq_none_iff_forall_not_mem]
  intro f there
  obtain ⟨held, got⟩ := r.exists_held there
  rw [nothing] at got
  cases got

/-- A field is set to the values that it takes. -/
theorem takes_iff : r.type.takes position value = true ↔ ∃ f, r.type.fields[position]? = some f
    ∧ value.conforms f.type.valueType = true ∧ f.type.HasRoom value := by
  rw [RecordType.takes, Option.any_eq_true]
  exact exists_congr fun f => and_congr_right fun _ => FieldType.isSome_ofValue?_iff

theorem exists_set_iff :
    (∃ after, r.set position value = .ok after) ↔ r.type.takes position value = true :=
  ⟨fun ⟨_, changed⟩ => takes_of_set changed, r.exists_set⟩

/-- A field is missing exactly if the position is beyond the last one. -/
theorem set_eq_noSuchField_iff {missing : Nat} :
    r.set position value = .error (.noSuchField missing) ↔
      r.type.fields.length ≤ position ∧ missing = position := by
  rw [← List.getElem?_eq_none_iff]
  constructor
  · intro refused
    have takesNot : r.type.takes position value = false := by
      by_contra takes
      obtain ⟨after, changed⟩ := r.exists_set (Bool.of_not_eq_false takes)
      rw [changed] at refused
      cases refused
    rw [r.set_eq_error takesNot, RecordType.refusal] at refused
    cases there : r.type.fields[position]? with
    | none =>
      rw [there] at refused
      cases refused
      exact ⟨rfl, rfl⟩
    | some f =>
      rw [there] at refused
      cases refused
  · rintro ⟨absent, rfl⟩
    rw [Record.set, absent]

/-- A field takes exactly the values of its type that it has room for, stands for the value it has
taken, and takes back what it stands for; so does a map whose entries have no order. A record whose
field is set has the new value there and its old ones everywhere else; if the field cannot be set,
the record is left as it is. Positions beyond the last field have no value and cannot be set, and
this is the only reason for saying that there is no such field. -/
theorem fields_lawful :
    (∀ (t : FieldType) (value : Value),
        ((∃ held, t.ofValue? value = some held) ↔
          value.conforms t.valueType = true ∧ t.HasRoom value)
        ∧ ∀ held, t.ofValue? value = some held → t.toValue held = value)
      ∧ (∀ (t : FieldType) (held : t.Carrier), t.ofValue? (t.toValue held) = some held)
      ∧ (∀ (k v : ScalarType) (value : Value),
        ((∃ m, LooseMap.ofValue? k v value = some m) ↔ value.conforms (.map k v) = true)
        ∧ ∀ m n, LooseMap.ofValue? k v value = some m → m.Same n → n.toValue = value)
      ∧ (∀ (k v : ScalarType) (m : LooseMap k.Carrier v.Carrier),
        ∃ n, LooseMap.ofValue? k v m.toValue = some n ∧ m.Same n)
      ∧ ∀ (r : Record) (position : Nat) (value : Value),
        let after := (r.assign position value).1
        let result := (r.assign position value).2
        r.set position value = result.map (fun _ => after)
          ∧ (result = .ok () ↔ ∃ f, r.type.fields[position]? = some f
            ∧ value.conforms f.type.valueType = true ∧ f.type.HasRoom value)
          ∧ (result = .ok () → after.type = r.type ∧ after.get? position = some value
            ∧ ∀ other, other ≠ position → after.get? other = r.get? other)
          ∧ (∀ cause, result = .error cause → after = r)
          ∧ (r.get? position = none ↔ r.type.fields.length ≤ position)
          ∧ ∀ missing, result = .error (.noSuchField missing) ↔
            r.type.fields.length ≤ position ∧ missing = position := by
  refine ⟨fun t value => ⟨?_, fun held => FieldType.toValue_of_ofValue?⟩,
    FieldType.ofValue?_toValue,
    fun k v value => ⟨LooseMap.exists_ofValue?_iff, fun m n => LooseMap.toValue_of_ofValue?⟩,
    fun k v => LooseMap.ofValue?_toValue, fun r position value => ?_⟩
  · rw [← Option.isSome_iff_exists]
    exact FieldType.isSome_ofValue?_iff
  · intro after result
    refine ⟨?_, ?_, fun done => ?_, fun cause => assign_of_error, get?_eq_none_iff,
      fun missing => ?_⟩
    · simp only [after, result, assign_eq]
      cases r.set position value <;> rfl
    · rw [← takes_iff, ← exists_set_iff, assign_eq_ok_iff]
      refine ⟨fun changed => ⟨after, changed⟩, ?_⟩
      rintro ⟨other, changed⟩
      rw [assign_eq, changed]
    · have changed := assign_eq_ok_iff.mp done
      have got := get?_of_set changed
      exact ⟨type_of_set changed, (got position).trans (if_pos rfl),
        fun other ne => (got other).trans (if_neg ne)⟩
    · rw [assign_eq_error_iff]
      exact set_eq_noSuchField_iff

end Record

/-! ## An example -/

namespace Sample

/-- A mirror of some traffic, with or without a tag. -/
def mirror (tag : Option Int64) : Record where
  type := {
    name := "Mirror"
    table := "Mirror"
    fields := [⟨"uuid", "_uuid", .scalar .string⟩, ⟨"tag", "output_vlan", .option .integer⟩] }
  contents := ("m", tag, ())

end Sample

/-- One tag is put into a mirror, two do not fit, and there is no third field. -/
theorem Record.fields_lawful_tag :
    let tags (l : List Int64) : Value := .set (l.map .integer)
    (Sample.mirror none).assign 1 (tags [7]) = (Sample.mirror (some 7), .ok ())
      ∧ (Sample.mirror (some 7)).get? 0 = (Sample.mirror none).get? 0
      ∧ (Sample.mirror (some 7)).get? 1 = some (tags [7])
      ∧ ((Sample.mirror none).assign 1 (tags [7, 8])).2 ≠ .ok ()
      ∧ (Sample.mirror none).assign 2 (tags [7]) =
        (Sample.mirror none, .error (.noSuchField 2)) := by
  intro tags
  have single := fields_lawful.2.2.2.2 (Sample.mirror none) 1 (tags [7])
  have double := fields_lawful.2.2.2.2 (Sample.mirror none) 1 (tags [7, 8])
  have beyond := fields_lawful.2.2.2.2 (Sample.mirror none) 2 (tags [7])
  obtain ⟨-, -, changed, -⟩ := single
  obtain ⟨-, done, -⟩ := double
  obtain ⟨-, -, -, kept, -, missing⟩ := beyond
  obtain ⟨-, got, others⟩ := changed rfl
  refine ⟨rfl, others 0 (by decide), got, fun taken => ?_, ?_⟩
  · obtain ⟨f, there, -, room⟩ := done.mp taken
    cases there
    change 2 ≤ 1 at room
    omega
  · have refused := (missing 2).mpr ⟨by decide, rfl⟩
    exact Prod.ext (kept _ refused) refused

end TableReplica
