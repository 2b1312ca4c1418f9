import TableReplica.Proofs.Replica.Independence

/-!
# Changes that are reported again

A report, or a part of it, may arrive a second time. The second time it takes other paths: a row
that was modified without being known is known by then, and a row that was deleted is not. It leads
to the same store all the same (`Store.apply_of_reported`), since a row that is decoded onto its own
record gives that record again (`Binding.recordOf_of_made`).
-/

namespace TableReplica

namespace Binding

variable {b : Binding} {id : String} {known : Option Record} {c : RowChange} {row : WireRow}
  {base r : Record}

/-- The record of a row is its own record: what the row covers is written over, and the rest has
been taken over from the record below. -/
theorem recordOf_of_made (made : b.recordOf id base row = .ok r) : b.recordOf id r row = .ok r :=
  (recordOf_congr (recordOf_agreeOff made)).trans made

theorem recordAfter_of_effect {e : Effect} (has : b.effect? id known c = .ok (some e)) :
    b.recordAfter id known c = e.record := by
  rw [recordAfter, has]

/-- What an effect leaves of a row stays as it is when the change comes again. -/
theorem recordAfter_of_applied {e : Effect} (has : b.effect? id known c = .ok (some e)) :
    b.recordAfter id e.record c = e.record := by
  cases before : c.oldRow? with
  | none =>
    cases present : c.newRow? with
    | none =>
      rw [effect?_of_silence before present] at has
      cases has
    | some new =>
      -- What was known before makes no difference to an insertion.
      rw [effect?_of_insert known before present, ← effect?_of_insert e.record before present]
        at has
      exact recordAfter_of_effect has
  | some old =>
    cases present : c.newRow? with
    | none =>
      rw [effect?_of_delete before present, Except.map_eq_ok_iff] at has
      obtain ⟨r, -, done⟩ := has
      cases done
      -- The row is gone; whether `old` can be decoded now shows in the result of the call alone.
      rw [recordAfter, effect?_of_delete before present]
      cases b.previous id none old <;> rfl
    | some new =>
      rw [effect?_of_modify before present, Except.bind_eq_ok_iff] at has
      obtain ⟨r, -, has⟩ := has
      obtain ⟨r', made, done⟩ := Except.map_eq_ok_iff.mp has
      cases done
      have again : b.effect? id (some r') c = .ok (some ⟨some r', .update b.table r' r'⟩) := by
        rw [effect?_of_modify before present, previous, Except.ok_bind, recordOf_of_made made]
        rfl
      have unchanged := recordAfter_of_effect again
      exact unchanged

/-- A change that comes again does nothing more to its row. -/
theorem recordAfter_recordAfter (b : Binding) (id : String) (known : Option Record)
    (c : RowChange) :
    b.recordAfter id (b.recordAfter id known c) c = b.recordAfter id known c := by
  cases outcome : b.effect? id known c with
  | error cause =>
    have unchanged : b.recordAfter id known c = known := by rw [recordAfter, outcome]
    rw [unchanged, unchanged]
  | ok effect =>
    cases effect with
    | none =>
      have unchanged : b.recordAfter id known c = known := by rw [recordAfter, outcome]
      rw [unchanged, unchanged]
    | some e => rw [recordAfter_of_effect outcome, recordAfter_of_applied outcome]

end Binding

/-- A report that says nothing but what was in the one before it, all of it or a part, leads to the
same store. -/
theorem Store.apply_of_reported (s : Store) {changes again : Changes}
    (reported : ∀ table id c, again.change? table id = some c →
      changes.change? table id = some c) :
    ((s.apply changes).state.apply again).state = (s.apply changes).state := by
  refine ext_row? (schema_apply _ again) (registry_apply _ again) (binding_apply _ again) ?_
  intro table id
  cases bound : s.binding table with
  | error cause => rw [row?_of_unbound (by simp [bound]), row?_of_unbound (by simp [bound])]
  | ok b =>
    have bound' := (s.binding_apply changes table).trans bound
    rw [row?_apply bound', row?_apply bound]
    cases said : again.change? table id with
    | none => rfl
    | some c =>
      rw [reported table id c said]
      exact b.recordAfter_recordAfter id (s.row? table id) c

/-- Whatever a replica holds and whatever a report says, the store after the report has come twice
is the one after it has come once: the same tables with the same rows and the same records. -/
theorem Replica.populate_populate (p : Replica) (changes : Changes) :
    ((p.populate changes).1.populate changes).1.store = (p.populate changes).1.store :=
  p.store.apply_of_reported fun _ _ _ said => said

end TableReplica
