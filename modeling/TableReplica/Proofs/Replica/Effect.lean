import TableReplica.Proofs.Record.Decoding

/-!
# The effect of one change

The change of a row inserts, modifies or deletes it, according to which of its rows say anything.
Each of the three has its own effect (`Binding.effect?_of_insert`, `Binding.effect?_of_modify`,
`Binding.effect?_of_delete`), and there are no others (`Binding.effect?_cases`).
-/

namespace TableReplica

namespace RowChange

variable {row old new : WireRow}

theorem newRow?_insert (filled : new.isEmpty = false) : (insert new).newRow? = some new := by
  simp [newRow?, insert, filled]

theorem newRow?_modify (filled : new.isEmpty = false) : (modify old new).newRow? = some new := by
  simp [newRow?, modify, filled]

theorem oldRow?_modify (filled : old.isEmpty = false) : (modify old new).oldRow? = some old := by
  simp [oldRow?, modify, filled]

theorem oldRow?_delete (filled : row.isEmpty = false) : (delete row).oldRow? = some row := by
  simp [oldRow?, delete, filled]

end RowChange

namespace Binding

variable {b : Binding} {id : String} {known : Option Record} {c : RowChange} {old new : WireRow}

theorem effect?_of_insert (known : Option Record) (absent : c.oldRow? = none)
    (present : c.newRow? = some new) : b.effect? id known c =
      (fun r => some ⟨some r, .add b.table r⟩) <$> b.recordOf id b.layout.blank new := by
  rw [effect?, absent, present]
  simp only
  cases b.recordOf id b.layout.blank new <;> rfl

theorem effect?_of_modify (before : c.oldRow? = some old) (present : c.newRow? = some new) :
    b.effect? id known c = b.previous id known old >>= fun r =>
      (fun r' => some ⟨some r', .update b.table r r'⟩) <$> b.recordOf id r new := by
  rw [effect?, before, present]
  rfl

theorem effect?_of_delete (before : c.oldRow? = some old) (absent : c.newRow? = none) :
    b.effect? id known c =
      (fun r => some ⟨none, .delete b.table r⟩) <$> b.previous id known old := by
  rw [effect?, before, absent]
  simp only
  cases b.previous id known old <;> rfl

theorem effect?_of_silence (silent : c.oldRow? = none) (absent : c.newRow? = none) :
    b.effect? id known c = .ok none := by
  rw [effect?, silent, absent]
  rfl

/-- Everything that the change of a row can do. -/
inductive Does (b : Binding) (id : String) (known : Option Record) : Effect → Prop
  | add {new : WireRow} {r : Record} (made : b.recordOf id b.layout.blank new = .ok r) :
    Does b id known ⟨some r, .add b.table r⟩
  | update {old new : WireRow} {r r' : Record} (before : b.previous id known old = .ok r)
    (made : b.recordOf id r new = .ok r') : Does b id known ⟨some r', .update b.table r r'⟩
  | delete {old : WireRow} {r : Record} (before : b.previous id known old = .ok r) :
    Does b id known ⟨none, .delete b.table r⟩

theorem effect?_cases {e : Effect} (has : b.effect? id known c = .ok (some e)) :
    Does b id known e := by
  cases before : c.oldRow? with
  | none =>
    cases present : c.newRow? with
    | none =>
      rw [effect?_of_silence before present] at has
      cases has
    | some new =>
      rw [effect?_of_insert known before present, Except.map_eq_ok_iff] at has
      obtain ⟨r, made, done⟩ := has
      cases done
      exact .add made
  | some old =>
    cases present : c.newRow? with
    | none =>
      rw [effect?_of_delete before present, Except.map_eq_ok_iff] at has
      obtain ⟨r, found, done⟩ := has
      cases done
      exact .delete found
    | some new =>
      rw [effect?_of_modify before present, Except.bind_eq_ok_iff] at has
      obtain ⟨r, found, has⟩ := has
      obtain ⟨r', made, done⟩ := Except.map_eq_ok_iff.mp has
      cases done
      exact .update found made

end Binding

end TableReplica
