import TableReplica.Proofs.Replica.Upstream

/-!
# Following a database

A new replica that is given what a database holds, and after that the report on every transaction in
turn, holds the records of the rows of the database at each time (`Replica.rows_of_history`). What
carries this is that every record it holds is that of a row decoded onto a record without any field
set, so that the fields which are not monitored are never set (`Binding.tidy_image`).
-/

namespace TableReplica

variable {schema : Schema} {registry : Registry} {m : Subscription schema registry}

/-- A store that holds the records of the rows of a database. -/
structure Store.Mirrors (s : Store) (u : Upstream m) : Prop where
  serves : s.Serves schema registry
  rows : ∀ table b, registry.binding? schema table = some b →
    ∀ id, s.row? table id = b.image id (u.database.row? table id)

namespace Store.Mirrors

variable {s : Store} {before after : Upstream m} {changes : Changes}

/-- Every change that the report on a transaction contains can be applied to the rows before the
transaction. -/
theorem effect? (mirrors : s.Mirrors before) (step : Upstream.Step before changes after)
    {table : String} {b : Binding} (bound : registry.binding? schema table = some b) {id : String}
    {c : RowChange} (reported : changes.change? table id = some c) :
    ∃ e, b.effect? id (s.row? table id) c = .ok (some e)
      ∧ e.record = b.image id (after.database.row? table id) := by
  refine step.effect? bound reported fun _ => ?_
  rw [mirrors.rows table b bound id]
  exact Binding.tidy_image (before.monitored table b bound id)

/-- With the report on a transaction a store keeps up with the database. -/
theorem apply (mirrors : s.Mirrors before) (step : Upstream.Step before changes after) :
    (s.apply changes).faults = [] ∧ (s.apply changes).state.Mirrors after := by
  constructor
  · rw [faults_apply_eq_nil_iff]
    intro d member
    refine faultOf_eq_none fun b bound => ?_
    have reported := Changes.mem_deltas_iff.mp member
    have bound' := (mirrors.serves.bindings d.table b).mp bound
    obtain ⟨e, applies, -⟩ := mirrors.effect? step bound' reported
    exact ⟨some e, applies⟩
  · refine ⟨mirrors.serves.apply changes, fun table b bound id => ?_⟩
    rw [row?_apply ((mirrors.serves.bindings table b).mpr bound)]
    cases reported : changes.change? table id with
    | none =>
      rw [Binding.follow, mirrors.rows table b bound id,
        step.unreported table b bound id reported]
    | some c =>
      obtain ⟨e, applies, result⟩ := mirrors.effect? step bound reported
      rw [Binding.follow, Binding.recordAfter, applies, ← result]

end Store.Mirrors

/-- A new store mirrors a database without rows. -/
theorem Store.mirrors_new {s : Store} (created : Store.new schema registry = .ok s) :
    s.Mirrors (Upstream.empty : Upstream m) :=
  ⟨serves_new created, fun table _ _ id => row?_new created table id⟩

/-- As long as reports come in order, every one of them can be applied, and the replica keeps up
with the database. -/
theorem Replica.populateAll_mirrors {p : Replica} {first last : Upstream m} {reports : List Changes}
    (history : Upstream.History first reports last) (mirrors : p.store.Mirrors first) :
    (∀ result ∈ (p.populateAll reports).2, result = .ok ())
      ∧ (p.populateAll reports).1.store.Mirrors last := by
  -- The replica goes on with the history, so the invariant is carried from its first step on.
  induction history generalizing p with
  | refl => exact ⟨by rintro _ ⟨⟩, mirrors⟩
  | @step first next last changes rest head tail ih =>
    obtain ⟨applied, mirrors'⟩ := mirrors.apply head
    obtain ⟨later, mirrors''⟩ := ih (p := (p.populate changes).1) mirrors'
    refine ⟨?_, mirrors''⟩
    intro result member
    rcases List.mem_cons.mp member with rfl | member
    · exact (p.populate_eq_ok_iff changes).mpr applied
    · exact later result member

/-- A table of a store that mirrors a database has exactly the rows of the database, and each row
has as its record the row as it is decoded onto a record without any field set, with the identifier
of the row. -/
theorem Store.Mirrors.table? {s : Store} {u : Upstream m} (mirrors : s.Mirrors u) {table : String}
    {b : Binding} (bound : registry.binding? schema table = some b) :
    ∃ t, s.table? table = some t ∧ t.binding = b ∧ t.rows.keys = (u.database.rows table).keys
      ∧ ∀ id, ∀ row ∈ u.database.row? table id,
        ∃ r, b.recordOf id b.layout.blank row = .ok r ∧ t.rows.get? id = some r := by
  obtain ⟨t, followed, isBound⟩ :=
    binding_eq_ok_iff.mp ((mirrors.serves.bindings table b).mpr bound)
  have rows : ∀ id, t.rows.get? id = b.image id (u.database.row? table id) := by
    intro id
    rw [← mirrors.rows table b bound id, row?, followed, Option.bind_some]
  have records : ∀ id, ∀ row ∈ u.database.row? table id,
      ∃ r, b.recordOf id b.layout.blank row = .ok r ∧ t.rows.get? id = some r := by
    intro id row present
    obtain ⟨r, made, imaged⟩ := (u.monitored table b bound id row present).exists_image id
    exact ⟨r, made, by rw [rows id, present, imaged]⟩
  refine ⟨t, followed, isBound, SortedMap.keys_eq_of_mem_iff fun id => ?_, records⟩
  rw [SortedMap.mem_keys_iff, SortedMap.mem_keys_iff]
  constructor
  · rintro ⟨r, found⟩
    rw [rows id] at found
    obtain ⟨row, present, -⟩ := Option.bind_eq_some_iff.mp found
    exact ⟨row, present⟩
  · rintro ⟨row, present⟩
    obtain ⟨r, -, found⟩ := records id row present
    exact ⟨r, found⟩

/-- A new replica that is given what a database holds and then the reports on all transactions in
turn applies every one of them, and holds in the end, in the table of each record type, a record for
each row of the database and no others: that of the row as it is decoded onto a record without any
field set, with the identifier of the row. -/
theorem Replica.rows_of_history {capacity : Nat} {start : Replica}
    (created : Replica.new schema registry capacity = .ok start) {first last : Upstream m}
    {reports : List Changes} (history : Upstream.History first reports last) :
    (∀ result ∈ (start.populateAll (first.database.contents :: reports)).2, result = .ok ())
      ∧ ∀ table l, registry.layout? table = some l → ∃ ts t, schema.table? table = some ts
        ∧ (start.populateAll (first.database.contents :: reports)).1.store.table? table = some t
        ∧ t.binding = ⟨ts, l⟩ ∧ t.rows.keys = (last.database.rows table).keys
        ∧ ∀ id, ∀ row ∈ last.database.row? table id,
          ∃ r, t.binding.recordOf id l.blank row = .ok r ∧ t.rows.get? id = some r := by
  have made := (Replica.new_eq_ok_iff.mp created).1
  obtain ⟨applied, mirrors⟩ := populateAll_mirrors (.step first.step_contents history)
    (Store.mirrors_new made)
  refine ⟨applied, fun table l registered => ?_⟩
  obtain ⟨b, bound, rfl⟩ := Store.exists_binding_new made registered
  obtain ⟨t, followed, rfl, keys, records⟩ := mirrors.table? bound
  have present := (Registry.binding?_eq_some_iff.mp bound).2
  exact ⟨t.binding.schema, t, present, followed, rfl, keys, records⟩

/-- A bridge is renamed while another one appears, and then it disappears. -/
theorem Replica.rows_of_history_bridges :
    let before := Sample.upstream (.ofList [("1", "br0")])
    let renamed := Sample.upstream (.ofList [("1", "br1"), ("2", "br0")])
    let after := Sample.upstream (.ofList [("2", "br0")])
    let reports := [before.database.contents, before.database.report renamed.database,
      renamed.database.report after.database]
    ∃ start, Replica.new Sample.schema Sample.registry 4 = .ok start
      ∧ (∀ result ∈ (start.populateAll reports).2, result = .ok ())
      ∧ ∃ t, (start.populateAll reports).1.store.table? "Bridge" = some t
        ∧ t.rows.keys = ["2"] ∧ t.rows.get? "2" = some (Sample.record "2" "br0" "") := by
  intro before renamed after reports
  obtain ⟨start, created⟩ := Sample.exists_replica
  have history : Upstream.History before _ after :=
    .step (before.step_report renamed) (.step (renamed.step_report after) (.refl after))
  obtain ⟨applied, tables⟩ := rows_of_history created history
  obtain ⟨ts, t, present, followed, bound, keys, records⟩ := tables "Bridge" Sample.bridge rfl
  obtain ⟨r, made, found⟩ := records "2" (Sample.row "br0") rfl
  cases present
  rw [bound] at made
  cases made
  exact ⟨start, created, applied, t, followed, keys, found⟩

end TableReplica
