import TableReplica.Proofs.Record.Registration
import TableReplica.Proofs.Replica.Soundness
import TableReplica.Query.Listing

/-!
# Reading by record type

Records are read by their type, and what is of another type is passed over without a word. That
never happens to a stored record: a replica holds the tables that have a record type and no others,
and whatever has been reported to it, every record in a table is of the type that is registered for
the table (`Replica.reads_by_type`).
-/

namespace TableReplica

/-! ## Types and tables -/

namespace Store

variable {schema : Schema} {registry : Registry} {s created : Store} {table : String} {l : Layout}

theorem tableFor_eq_ok_iff {type : RecordType} :
    s.tableFor type = .ok table ↔ s.registry.tableFor? type = some table := by
  rw [tableFor]
  cases s.registry.tableFor? type <;> simp

/-- There is a table for every record type, whatever has been reported. -/
theorem Serves.exists_table (serves : s.Serves schema registry)
    (new : Store.new schema registry = .ok created) (registered : registry.layout? table = some l) :
    ∃ t, s.table? table = some t ∧ t.binding.layout = l := by
  obtain ⟨b, bound, sameLayout⟩ := exists_binding_new new registered
  obtain ⟨t, followed, rfl⟩ := binding_eq_ok_iff.mp ((serves.bindings table b).mpr bound)
  exact ⟨t, followed, sameLayout⟩

/-- A store holds the tables that have a record type and no others. -/
theorem Serves.tables (serves : s.Serves schema registry)
    (new : Store.new schema registry = .ok created) : s.tables.keys = registry.tables := by
  apply SortedMap.keys_eq_of_mem_iff
  intro table
  rw [SortedMap.mem_keys_iff, SortedMap.mem_keys_iff]
  constructor
  · rintro ⟨t, followed⟩
    have bound := (serves.bindings table t.binding).mp (binding_eq_ok_iff.mpr ⟨t, followed, rfl⟩)
    exact ⟨t.binding.layout, (Registry.binding?_eq_some_iff.mp bound).1⟩
  · rintro ⟨l, registered⟩
    obtain ⟨t, followed, -⟩ := serves.exists_table new registered
    exact ⟨t, followed⟩

end Store

/-! ## Listings -/

/-- What there is room for behind other things, under a limit on the length of the whole. -/
def fitting {α : Type} (limit : Option Nat) (before more : List α) : List α :=
  match limit with
  | none => more
  | some limit => more.take (limit - before.length)

@[simp]
theorem fitting_nil {α : Type} (limit : Option Nat) (before : List α) :
    fitting limit before [] = [] := by
  cases limit <;> simp [fitting]

namespace Store

variable {limit : Option Nat} {before : List Record}

theorem fitting_of_isFull (full : isFull limit before = true) (more : List Record) :
    fitting limit before more = [] := by
  cases limit with
  | none => cases full
  | some n =>
    have noRoom : n - before.length = 0 := Nat.sub_eq_zero_of_le (of_decide_eq_true full)
    rw [fitting, noRoom, List.take_zero]

theorem fitting_cons_of_room (room : isFull limit before = false) (r : Record)
    (more : List Record) :
    before ++ fitting limit before (r :: more) =
      before ++ [r] ++ fitting limit (before ++ [r]) more := by
  cases limit with
  | none => simp [fitting]
  | some n =>
    have below : before.length < n := Nat.lt_of_not_le (of_decide_eq_false room)
    have left : n - before.length = n - (before ++ [r]).length + 1 := by
      simp
      omega
    rw [fitting, left, List.take_succ_cons, fitting, List.append_assoc, List.singleton_append]

variable {type : RecordType} {accepts : Record → Except ReplicaFault Bool} {test : Record → Bool}
  {candidates : List Record}

/-- Filling a list with records of the type that is asked for passes over none that is accepted, as
long as there is room. -/
theorem fill_of_typed (typed : ∀ r ∈ candidates, r.type = type)
    (decided : ∀ r ∈ candidates, accepts r = .ok (test r)) :
    fill type limit accepts before candidates =
      (before ++ fitting limit before (candidates.filter test), .ok ()) := by
  induction candidates generalizing before with
  | nil => simp [fill]
  | cons r rest ih =>
    rw [List.forall_mem_cons] at typed decided
    rw [fill, decided.1]
    cases full : isFull limit before with
    | true => simp [fitting_of_isFull full]
    | false =>
      simp only [Bool.false_eq_true, if_false]
      rw [ih typed.2 decided.2]
      cases accepted : test r with
      | true =>
        rw [if_pos ⟨rfl, typed.1⟩, List.filter_cons_of_pos accepted, fitting_cons_of_room full]
      | false =>
        have refused : ¬ test r = true := by simp [accepted]
        rw [if_neg (by simp), List.filter_cons_of_neg refused]

theorem collect_of_typed (typed : ∀ r ∈ candidates, r.type = type)
    (decided : ∀ r ∈ candidates, accepts r = .ok (test r)) :
    collect type limit accepts before candidates =
      .ok (before ++ fitting limit before (candidates.filter test)) := by
  rw [collect, fill_of_typed typed decided]
  rfl

variable {s : Store} {table : String} {t : StoredTable} {selection : Option Selection}

/-- The records of a type are listed from the table that the type is registered for. -/
theorem listedTable_of_registered (registered : s.registry.tableFor? type = some table)
    (followed : s.table? table = some t) (apt : ∀ c ∈ selection, c.table = table) :
    s.listedTable type selection = .ok t := by
  have noOther : selection.filter (fun c => c.table ≠ table) = none :=
    Option.filter_eq_none_iff.mpr fun c member => by simpa using apt c member
  rw [listedTable, tableFor_eq_ok_iff.mpr registered]
  dsimp only
  rw [noOther, followed]

theorem list_eq_collect (registered : s.registry.tableFor? type = some table)
    (followed : s.table? table = some t) (apt : ∀ c ∈ selection, c.table = table) :
    s.list type selection limit before =
      collect type limit (asksFor selection) before t.rows.values := by
  rw [list, appendUpTo, listedTable_of_registered registered followed apt]
  rfl

end Store

/-- Whatever has been reported to a replica, it holds the tables that have a record type and no
others, and each record in a table is of the type that is registered for the table and has the
identifier under which it is stored. So reading by that type passes over no record: looking a row up
finds its record, and a listing adds to what is there before all records that are asked for, as far
as there is room. -/
theorem Replica.reads_by_type {schema : Schema} {registry : Registry} {capacity : Nat}
    {start : Replica} (created : Replica.new schema registry capacity = .ok start)
    (reports : List Changes) :
    let s := (start.populateAll reports).1.store
    s.tables.keys = registry.tables
      ∧ (∀ table t, s.table? table = some t → registry.layout? table = some t.binding.layout
        ∧ ∀ id r, t.rows.get? id = some r → r.type = t.binding.layout.type
          ∧ t.binding.identity r = id)
      ∧ ∀ type table, registry.tableFor? type = some table → ∃ t, s.table? table = some t
        ∧ t.binding.layout.type = type
        ∧ (∀ id, s.rowAs? type table id = t.rows.get? id)
        ∧ ∀ selection limit before test, (∀ c ∈ selection, c.table = table) →
          (∀ r ∈ t.rows.values, Store.asksFor selection r = .ok (test r)) →
          s.list type selection limit before =
            .ok (before ++ fitting limit before (t.rows.values.filter test)) := by
  intro s
  have serves : s.Serves schema registry := serves created reports
  have sound : s.Sound := sound created reports
  have new := (new_eq_ok_iff.mp created).1
  refine ⟨serves.tables new, ?_, ?_⟩
  · intro table t followed
    have bound := (serves.bindings table t.binding).mp
      (Store.binding_eq_ok_iff.mpr ⟨t, followed, rfl⟩)
    refine ⟨(Registry.binding?_eq_some_iff.mp bound).1, fun id r found => ?_⟩
    have represents := sound.tables table t followed id r found
    exact ⟨represents.typed, represents.identified⟩
  · intro type table registered
    obtain ⟨l, laid, rfl⟩ := Registry.exists_layout_of_tableFor? registered
    obtain ⟨t, followed, rfl⟩ := serves.exists_table new laid
    have typed : ∀ r ∈ t.rows.values, r.type = t.binding.layout.type := by
      intro r member
      obtain ⟨⟨id, _⟩, listed, rfl⟩ := List.mem_map.mp member
      exact (sound.tables table t followed id _ (SortedMap.get?_eq_some_iff.mpr listed)).typed
    refine ⟨t, followed, rfl, fun id => ?_, fun selection limit before test apt decided => ?_⟩
    · rw [Store.rowAs?, Store.row?, followed, Option.bind_some]
      cases found : t.rows.get? id with
      | none => rfl
      | some r =>
        have sameType := (sound.tables table t followed id r found).typed
        simp [Option.filter, sameType]
    · rw [← serves.sameRegistry] at registered
      rw [Store.list_eq_collect registered followed apt, Store.collect_of_typed typed decided]

/-- A row arrives with an identifier of its own in its data and with a column that the table does
not have, next to a row and to a table that nothing can be made of. The one record that comes of it
has the identifier of its row, and reading by type finds it. -/
theorem Replica.reads_by_type_bridge :
    let report : Changes := .ofList [
      ("Bridge", .ofList [
        ("1", .insert (.ofList [("_uuid", .atom (.uuid "9")), ("name", .atom (.string "br0")),
          ("nowhere", .atom (.boolean true))])),
        ("2", .insert (.ofList [("name", .atom (.boolean true))]))]),
      ("Port", .ofList [("3", .insert (Sample.row "eth0"))])]
    ∃ start, Replica.new Sample.schema Sample.registry 4 = .ok start
      ∧ let s := (start.populateAll [report]).1.store
        s.tables.keys = ["Bridge"]
          ∧ s.rowAs? Sample.bridge.type "Bridge" "1" = some (Sample.record "1" "br0" "")
          ∧ s.list Sample.bridge.type none none [] = .ok [Sample.record "1" "br0" ""] := by
  intro report
  obtain ⟨start, created⟩ := Sample.exists_replica
  obtain ⟨tables, -, typed⟩ := reads_by_type created [report]
  obtain ⟨t, followed, -, reads, lists⟩ := typed Sample.bridge.type "Bridge" rfl
  cases created
  cases followed
  refine ⟨_, rfl, tables, reads "1", ?_⟩
  exact lists none none [] (fun _ => true) (by simp) (fun _ _ => rfl)

end TableReplica
