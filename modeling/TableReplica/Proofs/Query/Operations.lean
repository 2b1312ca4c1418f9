import TableReplica.Proofs.Query.TypedReads
import TableReplica.Query.Edit

/-!
# What edits consist of

The operations that insert, delete, update or mutate rows, taken apart. An insertion carries the row
of a record (`Store.create_eq_ok_iff`); everything else is one copy of an operation for each list of
clauses that the selection needs (`Selection.operations_eq_ok_iff`), in the table of the selection,
which is that of the record type.
-/

namespace TableReplica

variable {s : Store} {r : Record}

/-- A record is inserted by its row in the table that its type is registered for. -/
theorem Store.create_eq_ok_iff {o : Operation} : s.create r = .ok o ↔
    ∃ table b row, s.registry.tableFor? r.type = some table ∧ s.binding table = .ok b
      ∧ b.encode r = .ok row
      ∧ o = { kind := .insert, table, row, uuidName := b.identity r } := by
  simp only [create, Except.bind_eq_ok_iff, ← tableFor_eq_ok_iff]
  constructor
  · rintro ⟨table, registered, b, bound, row, encoded, made⟩
    cases made
    refine ⟨table, b, row, Except.mapError_eq_ok_iff.mp registered, ?_, ?_, rfl⟩
    · exact Except.mapError_eq_ok_iff.mp (Except.mapError_eq_ok_iff.mp bound)
    · exact Except.mapError_eq_ok_iff.mp (Except.mapError_eq_ok_iff.mp encoded)
  · rintro ⟨table, b, row, registered, bound, encoded, rfl⟩
    refine ⟨table, Except.mapError_eq_ok_iff.mpr registered, b, ?_, row, ?_, rfl⟩
    · exact Except.mapError_eq_ok_iff.mpr (Except.mapError_eq_ok_iff.mpr bound)
    · exact Except.mapError_eq_ok_iff.mpr (Except.mapError_eq_ok_iff.mpr encoded)

namespace Store

/-- A record type is bound by the table that it is registered for. -/
theorem bindingFor_eq_ok_iff {type : RecordType} {b : Binding} : s.bindingFor type = .ok b ↔
    ∃ table, s.registry.tableFor? type = some table ∧ s.binding table = .ok b := by
  simp only [bindingFor, Except.bind_eq_ok_iff, ← tableFor_eq_ok_iff]
  constructor
  · rintro ⟨table, registered, bound⟩
    exact ⟨table, Except.mapError_eq_ok_iff.mp registered,
      Except.mapError_eq_ok_iff.mp (Except.mapError_eq_ok_iff.mp bound)⟩
  · rintro ⟨table, registered, bound⟩
    exact ⟨table, Except.mapError_eq_ok_iff.mpr registered,
      Except.mapError_eq_ok_iff.mpr (Except.mapError_eq_ok_iff.mpr bound)⟩

end Store

namespace Selection

variable {c : Selection} {type : RecordType} {names : List String} {ops : List Operation}

/-- There is one copy of an operation for each list of clauses. -/
theorem operations_eq_ok_iff {o : Operation} : c.operations s o = .ok ops ↔
    ∃ written, c.clauses s = .ok written
      ∧ ops = written.map fun clauses => { o with clauses } := by
  rw [operations, Except.bind_eq_ok_iff]
  exact exists_congr fun written => and_congr_right fun _ =>
    ⟨fun made => (Except.ok.inj made).symm, fun made => congrArg Except.ok made.symm⟩

theorem operations_of_clauses {written : List (List Clause)} (asked : c.clauses s = .ok written)
    (o : Operation) : c.operations s o = .ok (written.map fun clauses => { o with clauses }) :=
  operations_eq_ok_iff.mpr ⟨written, asked, rfl⟩

/-- A selection is edited through record types of its own table. -/
theorem tableFor_eq_ok {table : String} (named : c.tableFor s type = .ok table) :
    table = c.table ∧ s.registry.tableFor? type = some c.table := by
  obtain ⟨table', registered, own⟩ := Except.bind_eq_ok_iff.mp named
  split at own
  next same =>
    cases own
    exact ⟨same, same ▸ Store.tableFor_eq_ok_iff.mp registered⟩
  next => cases own

theorem update_eq_ok (made : c.update s r names = .ok ops) :
    s.registry.tableFor? r.type = some c.table ∧ ∃ b row, s.binding c.table = .ok b
      ∧ b.changeableRow r names = .ok row
      ∧ c.operations s { kind := .update, table := c.table, row } = .ok ops := by
  obtain ⟨table, named, made⟩ := Except.bind_eq_ok_iff.mp made
  obtain ⟨b, bound, made⟩ := Except.bind_eq_ok_iff.mp made
  obtain ⟨row, written, made⟩ := Except.bind_eq_ok_iff.mp made
  obtain ⟨rfl, registered⟩ := tableFor_eq_ok (Except.mapError_eq_ok_iff.mp named)
  exact ⟨registered, b, row, Except.mapError_eq_ok_iff.mp (Except.mapError_eq_ok_iff.mp bound),
    Except.mapError_eq_ok_iff.mp written, made⟩

theorem mutate_eq_ok {changes : List FieldMutation} (made : c.mutate s type changes = .ok ops) :
    s.registry.tableFor? type = some c.table ∧ ∃ b mutations, s.binding c.table = .ok b
      ∧ changes.mapM b.mutation = .ok mutations
      ∧ c.operations s { kind := .mutate, table := c.table, mutations } = .ok ops := by
  obtain ⟨table, named, made⟩ := Except.bind_eq_ok_iff.mp made
  obtain ⟨b, bound, made⟩ := Except.bind_eq_ok_iff.mp made
  obtain ⟨mutations, written, made⟩ := Except.bind_eq_ok_iff.mp made
  obtain ⟨rfl, registered⟩ := tableFor_eq_ok (Except.mapError_eq_ok_iff.mp named)
  exact ⟨registered, b, mutations,
    Except.mapError_eq_ok_iff.mp (Except.mapError_eq_ok_iff.mp bound),
    Except.mapError_eq_ok_iff.mp written, made⟩

end Selection

end TableReplica
