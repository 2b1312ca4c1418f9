import TableReplica.Proofs.Failure
import TableReplica.Wire.Reading

/-!
# What writes a datum

The JSON values that write atoms, data and rows, said without the readers. Each of them is read.
-/

namespace TableReplica

namespace Json

/-- Whether a value writes an atom. -/
inductive IsAtom : Json → Prop
  | bool (b : Bool) : IsAtom (.bool b)
  | number (n : Number) : IsAtom (.number n)
  | string (s : String) : IsAtom (.string s)
  | uuid (id : String) : IsAtom (.array [.string "uuid", .string id])
  | namedUuid (name : String) : IsAtom (.array [.string "named-uuid", .string name])

/-- Whether a value writes a datum. -/
inductive IsDatum : Json → Prop
  | atom {value : Json} (single : value.IsAtom) : IsDatum value
  | set {items : List Json} (each : ∀ item ∈ items, item.IsAtom) :
    IsDatum (.array [.string "set", .array items])
  | map {entries : List (Json × Json)} (each : ∀ e ∈ entries, e.1.IsAtom ∧ e.2.IsAtom) :
    IsDatum (.array [.string "map", .array (entries.map fun e => .array [e.1, e.2])])

/-- Whether a value writes a row. -/
inductive IsRow : Json → Prop
  | object {members : List (String × Json)} (each : ∀ m ∈ members, m.2.IsDatum) :
    IsRow (.object members)

variable {value : Json}

theorem IsAtom.exists_ofJson (single : value.IsAtom) : ∃ a, Atom.ofJson value = .ok a := by
  cases single with
  | bool | number | string | uuid | namedUuid => exact ⟨_, rfl⟩

theorem IsDatum.exists_ofJson (written : value.IsDatum) : ∃ d, Datum.ofJson value = .ok d := by
  cases written with
  | atom single =>
    -- An atom is none of the tagged lists, whatever its own tag is.
    cases single with
    | bool | number | string | uuid | namedUuid => exact ⟨_, rfl⟩
  | set each =>
    obtain ⟨atoms, read⟩ := Except.exists_mapM fun item member => (each item member).exists_ofJson
    exact ⟨.set atoms, Except.bind_eq_ok_iff.mpr ⟨atoms, read, rfl⟩⟩
  | @map entries each =>
    have each' : ∀ item ∈ entries.map fun e => Json.array [e.1, e.2],
        ∃ entry, Datum.entryOfJson item = .ok entry := by
      intro item member
      obtain ⟨e, listed, rfl⟩ := List.mem_map.mp member
      obtain ⟨k, key⟩ := (each e listed).1.exists_ofJson
      obtain ⟨v, mapped⟩ := (each e listed).2.exists_ofJson
      exact ⟨(k, v), Except.bind_eq_ok_iff.mpr ⟨k, key, Except.bind_eq_ok_iff.mpr ⟨v, mapped, rfl⟩⟩⟩
    obtain ⟨read, images⟩ := Except.exists_mapM each'
    exact ⟨.map read, Except.bind_eq_ok_iff.mpr ⟨read, images, rfl⟩⟩

theorem IsRow.exists_read (written : value.IsRow) : ∃ row, WireRow.read value = .ok row := by
  cases written with
  | @object members each =>
    have each' : ∀ m ∈ members,
        ∃ entry : String × Datum, (m.1, ·) <$> Datum.read m.2 = .ok entry := by
      intro m member
      obtain ⟨d, read⟩ := (each m member).exists_ofJson
      exact ⟨(m.1, d),
        Except.map_eq_ok_iff.mpr ⟨d, Except.mapError_eq_ok_iff.mpr read, rfl⟩⟩
    obtain ⟨entries, images⟩ := Except.exists_mapM each'
    exact ⟨.ofList entries, Except.map_eq_ok_iff.mpr ⟨entries, images, rfl⟩⟩

end Json

end TableReplica
