import TableReplica.Proofs.Record.Carrier
import TableReplica.Value.Coding

/-!
# Encoding and decoding

A value that a column encodes is got back from its datum (`ColumnSchema.decode_of_encode`). So the
datum says of a value, beside which column it is in, all there is to say.
-/

namespace TableReplica

theorem AtomicType.decode?_encode (type : AtomicType) {s : Scalar}
    (typed : s.type = ScalarType.ofAtomic type) : type.decode? (type.encode s) = some s := by
  cases type <;> cases s <;> cases typed
  case uuid.string.refl id =>
    rw [encode, if_pos rfl, Atom.reference]
    split <;> rfl
  all_goals rfl

namespace ColumnSchema

theorem decodeAtom_encode (c : ColumnSchema) (type : AtomicType) {s : Scalar}
    (typed : s.type = ScalarType.ofAtomic type) : c.decodeAtom type (type.encode s) = .ok s := by
  rw [decodeAtom, type.decode?_encode typed]

theorem decodeEntry_encode (c : ColumnSchema) (key mapped : AtomicType) {entry : Scalar × Scalar}
    (keyTyped : entry.1.type = ScalarType.ofAtomic key)
    (mappedTyped : entry.2.type = ScalarType.ofAtomic mapped) :
    c.decodeEntry key mapped (key.encode entry.1, mapped.encode entry.2) = .ok entry := by
  rw [decodeEntry, c.decodeAtom_encode key keyTyped, c.decodeAtom_encode mapped mappedTyped]
  rfl

variable {c : ColumnSchema} {key : AtomicType} {type : ValueType} {value : Value} {datum : Datum}

/-- What the kind of a column makes of the types of its elements. -/
theorem valueType_eq_ok_iff : c.valueType = .ok type ↔ ∃ key, c.keyType = .ok key ∧
    match c.kind with
    | .set => type = .set (.ofAtomic key)
    | .map => ∃ mapped, c.mappedType = .ok mapped ∧ type = .map (.ofAtomic key) (.ofAtomic mapped)
    | .atomic _ | .enumeration => type = .scalar (.ofAtomic key) := by
  rw [valueType, Except.bind_eq_ok_iff]
  refine exists_congr fun key => and_congr_right fun _ => ?_
  cases c.kind with
  | set => exact ⟨fun made => (Except.ok.inj made).symm, fun same => same ▸ rfl⟩
  | map =>
    rw [Except.bind_eq_ok_iff]
    exact exists_congr fun mapped => and_congr_right fun _ =>
      ⟨fun made => (Except.ok.inj made).symm, fun same => same ▸ rfl⟩
  | atomic _ | enumeration => exact ⟨fun made => (Except.ok.inj made).symm, fun same => same ▸ rfl⟩

/-- A value that is encoded is of the type of the column, and its datum has the same shape. -/
theorem eq_of_encode : c.encode value = .ok datum →
    ∃ type key, c.valueType = .ok type ∧ value.conforms type = true ∧ c.keyType = .ok key ∧
      match value with
      | .scalar s => datum = .atom (key.encode s)
      | .set elements => datum = .set (elements.map key.encode)
      | .map entries => ∃ mapped, c.mappedType = .ok mapped ∧
        datum = .map (entries.toList.map fun e => (key.encode e.1, mapped.encode e.2)) := by
  intro encoded
  obtain ⟨type, typed, encoded⟩ := Except.bind_eq_ok_iff.mp encoded
  split at encoded
  next conforming =>
    obtain ⟨key, keyed, encoded⟩ := Except.bind_eq_ok_iff.mp encoded
    refine ⟨type, key, typed, conforming, keyed, ?_⟩
    cases value with
    | scalar s => exact (Except.ok.inj encoded).symm
    | set elements => exact (Except.ok.inj encoded).symm
    | map entries =>
      obtain ⟨mapped, known, encoded⟩ := Except.bind_eq_ok_iff.mp encoded
      exact ⟨mapped, known, (Except.ok.inj encoded).symm⟩
  next => cases encoded

/-- A value that is encoded is got back from its datum. -/
theorem decode_of_encode (encoded : c.encode value = .ok datum) : c.decode datum = .ok value := by
  obtain ⟨type, key, typed, conforming, keyed, shape⟩ := eq_of_encode encoded
  obtain ⟨key', keyed', byKind⟩ := valueType_eq_ok_iff.mp typed
  rw [keyed] at keyed'
  cases keyed'
  refine Except.bind_eq_ok_iff.mpr ⟨key, keyed, ?_⟩
  cases kind : c.kind with
  | set =>
    rw [kind] at byKind
    subst byKind
    cases value with
    | set elements =>
      have back : (elements.map key.encode).mapM (c.decodeAtom key) = .ok elements := by
        refine Except.mapM_map_eq_ok fun s member => c.decodeAtom_encode key ?_
        exact beq_iff_eq.mp (List.all_eq_true.mp conforming s member)
      rw [shape]
      exact Except.bind_eq_ok_iff.mpr ⟨elements, back, rfl⟩
    | scalar _ | map _ => cases conforming
  | map =>
    rw [kind] at byKind
    obtain ⟨mapped, known, rfl⟩ := byKind
    cases value with
    | map entries =>
      obtain ⟨mapped', known', rfl⟩ := shape
      rw [known] at known'
      cases known'
      have back : (entries.toList.map fun e => (key.encode e.1, mapped.encode e.2)).mapM
          (c.decodeEntry key mapped) = .ok entries.toList := by
        refine Except.mapM_map_eq_ok fun entry member => ?_
        have both := List.all_eq_true.mp conforming entry member
        rw [Bool.and_eq_true, beq_iff_eq, beq_iff_eq] at both
        exact c.decodeEntry_encode key mapped both.1 both.2
      refine Except.bind_eq_ok_iff.mpr ⟨mapped, known, Except.bind_eq_ok_iff.mpr ⟨_, back, ?_⟩⟩
      exact congrArg (Except.ok ∘ Value.map) entries.ofList_toList
    | scalar _ | set _ => cases conforming
  | atomic _ | enumeration =>
    rw [kind] at byKind
    subst byKind
    cases value with
    | scalar s =>
      have back := c.decodeAtom_encode key (beq_iff_eq.mp conforming)
      rw [shape]
      exact Except.bind_eq_ok_iff.mpr ⟨s, back, rfl⟩
    | set _ | map _ => cases conforming

end ColumnSchema

end TableReplica
