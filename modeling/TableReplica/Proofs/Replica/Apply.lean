import Mathlib.Data.List.Basic
import TableReplica.Proofs.Sorted
import TableReplica.Replica.Basic

/-!
# Applying changes, row by row

The rows of a store go their ways independently of each other. What becomes of a row, what is told
about it and what is wrong with its change is known from the record that stood for it and from its
own change (`Binding.recordAfter`, `Binding.eventOf`, `Binding.faultOf`), and applying the changes
of a database is nothing but that for every row (`Store.row?_apply`, `Store.events_apply`,
`Store.faults_apply`).
-/

namespace TableReplica

namespace Binding

variable (b : Binding) (id : String) (known : Option Record) (c : RowChange)

/-- The record that stands for a row after a change. -/
def recordAfter : Option Record :=
  match b.effect? id known c with
  | .ok (some effect) => effect.record
  | _ => known

/-- The record that stands for a row after a report that may say something about the row. -/
def follow : Option RowChange → Option Record
  | none => known
  | some c => b.recordAfter id known c

/-- The event that a change of a row raises. -/
def eventOf : Option Event :=
  match b.effect? id known c with
  | .ok (some effect) => some effect.event
  | _ => none

/-- What is wrong with a change of a row. -/
def faultOf : Option DeltaFault :=
  match b.effect? id known c with
  | .error cause => some ⟨b.table, id, cause⟩
  | _ => none

end Binding

/-! ## One table -/

namespace StoredTable

section Row

variable (a : Applied StoredTable) (id : String) (c : RowChange)

theorem binding_applyRow : (applyRow a id c).state.binding = a.state.binding := by
  rw [applyRow]
  split <;> rfl

theorem rows_applyRow_self : (applyRow a id c).state.rows.get? id =
    a.state.binding.recordAfter id (a.state.rows.get? id) c := by
  rw [applyRow, Binding.recordAfter]
  split
  next effect outcome =>
    rw [outcome]
    simp only
    cases effect.record with
    | some r => exact SortedMap.get?_insert_self _ id r
    | none => exact SortedMap.get?_erase_self _ id
  next outcome => rw [outcome]
  next outcome => rw [outcome]

theorem rows_applyRow_of_ne {other : String} (ne : other ≠ id) :
    (applyRow a id c).state.rows.get? other = a.state.rows.get? other := by
  rw [applyRow]
  split
  next effect _ =>
    cases h : effect.record with
    | some r => exact SortedMap.get?_insert_of_ne _ ne r
    | none => exact SortedMap.get?_erase_of_ne _ ne
  next => rfl
  next => rfl

theorem events_applyRow : (applyRow a id c).events =
    a.events ++ (a.state.binding.eventOf id (a.state.rows.get? id) c).toList := by
  rw [applyRow, Binding.eventOf]
  split
  next outcome => simp [outcome]
  next outcome => simp [outcome]
  next outcome => simp [outcome]

theorem faults_applyRow : (applyRow a id c).faults =
    a.faults ++ (a.state.binding.faultOf id (a.state.rows.get? id) c).toList := by
  rw [applyRow, Binding.faultOf]
  split
  next outcome => simp [outcome]
  next outcome => simp [outcome]
  next outcome => simp [outcome]

end Row

variable (t : StoredTable) (changes : TableChanges)

/-- What a step of applying changes can see of a row. -/
private def viewOf (a : Applied StoredTable) (id : String) : Binding × Option Record :=
  (a.state.binding, a.state.rows.get? id)

private theorem viewOf_frame (a : Applied StoredTable) (e : String × RowChange) (id : String)
    (ne : id ≠ e.1) : viewOf (applyRow a e.1 e.2) id = viewOf a id := by
  rw [viewOf, binding_applyRow, rows_applyRow_of_ne a e.1 e.2 ne, viewOf]

theorem binding_apply : (t.apply changes).state.binding = t.binding :=
  List.foldlRecOn changes.toList _ (motive := fun a : Applied StoredTable =>
    a.state.binding = t.binding) rfl fun a kept e _ => (binding_applyRow a e.1 e.2).trans kept

theorem rows_apply (id : String) :
    (t.apply changes).state.rows.get? id =
      t.binding.follow id (t.rows.get? id) (changes.get? id) := by
  have seen := SortedMap.foldl_view viewOf (fun a e => applyRow a e.1 e.2)
    (fun id c before => (before.1, before.1.recordAfter id before.2 c)) viewOf_frame
    (fun a e => by rw [viewOf, binding_applyRow, rows_applyRow_self, viewOf])
    changes { state := t } id
  refine (congrArg Prod.snd seen).trans ?_
  cases changes.get? id <;> rfl

theorem events_apply : (t.apply changes).events =
    changes.toList.filterMap fun e => t.binding.eventOf e.1 (t.rows.get? e.1) e.2 := by
  rw [List.filterMap_eq_flatMap_toList]
  exact SortedMap.foldl_log viewOf (fun a e => applyRow a e.1 e.2) Applied.events
    (fun e before => (before.1.eventOf e.1 before.2 e.2).toList) viewOf_frame
    (fun a e => events_applyRow a e.1 e.2) (SortedMap.keys_nodup changes) { state := t }

theorem faults_apply : (t.apply changes).faults =
    changes.toList.filterMap fun e => t.binding.faultOf e.1 (t.rows.get? e.1) e.2 := by
  rw [List.filterMap_eq_flatMap_toList]
  exact SortedMap.foldl_log viewOf (fun a e => applyRow a e.1 e.2) Applied.faults
    (fun e before => (before.1.faultOf e.1 before.2 e.2).toList) viewOf_frame
    (fun a e => faults_applyRow a e.1 e.2) (SortedMap.keys_nodup changes) { state := t }

end StoredTable

/-! ## All tables -/

/-- The change of one row of one table. -/
structure Delta where
  table : String
  row : String
  change : RowChange

namespace Changes

/-- The change of a row, if there is one. -/
def change? (changes : Changes) (table id : String) : Option RowChange :=
  (changes.get? table).bind fun rows => rows.get? id

/-- The changes of single rows in the order in which they are applied. -/
def deltas (changes : Changes) : List Delta :=
  changes.toList.flatMap fun table => table.2.toList.map fun row => ⟨table.1, row.1, row.2⟩

theorem mem_deltas_iff {changes : Changes} {d : Delta} :
    d ∈ changes.deltas ↔ changes.change? d.table d.row = some d.change := by
  rw [deltas, change?, List.mem_flatMap]
  constructor
  · rintro ⟨table, member, inTable⟩
    obtain ⟨row, member', rfl⟩ := List.mem_map.mp inTable
    rw [SortedMap.get?_eq_some_iff.mpr member]
    exact SortedMap.get?_eq_some_iff.mpr member'
  · intro found
    obtain ⟨rows, foundTable, foundRow⟩ := Option.bind_eq_some_iff.mp found
    refine ⟨(d.table, rows), SortedMap.get?_eq_some_iff.mp foundTable, ?_⟩
    exact List.mem_map.mpr ⟨(d.row, d.change), SortedMap.get?_eq_some_iff.mp foundRow, rfl⟩

end Changes

namespace Store

section Table

variable (a : Applied Store) (name : String) (changes : TableChanges)

theorem table?_applyTable_self : (applyTable a name changes).state.table? name =
    (a.state.table? name).map fun t => (t.apply changes).state := by
  rw [applyTable]
  cases followed : a.state.table? name with
  | none => exact followed
  | some t => exact SortedMap.get?_insert_self _ _ _

theorem table?_applyTable_of_ne {other : String} (ne : other ≠ name) :
    (applyTable a name changes).state.table? other = a.state.table? other := by
  rw [applyTable]
  cases a.state.table? name with
  | none => rfl
  | some t => exact SortedMap.get?_insert_of_ne _ ne _

theorem schema_applyTable : (applyTable a name changes).state.schema = a.state.schema := by
  rw [applyTable]
  split <;> rfl

theorem registry_applyTable : (applyTable a name changes).state.registry = a.state.registry := by
  rw [applyTable]
  split <;> rfl

theorem events_applyTable : (applyTable a name changes).events =
    a.events ++ (a.state.table? name).elim [] fun t => (t.apply changes).events := by
  rw [applyTable]
  cases a.state.table? name <;> simp

theorem faults_applyTable : (applyTable a name changes).faults =
    a.faults ++ (a.state.table? name).elim [] fun t => (t.apply changes).faults := by
  rw [applyTable]
  cases a.state.table? name <;> simp

end Table

variable (s : Store) (changes : Changes)

/-- The event that the change of a row raises; changes of other tables than those that are followed
raise none. -/
def eventOf (d : Delta) : Option Event :=
  (s.table? d.table).bind fun t => t.binding.eventOf d.row (t.rows.get? d.row) d.change

/-- What is wrong with the change of a row. -/
def faultOf (d : Delta) : Option DeltaFault :=
  (s.table? d.table).bind fun t => t.binding.faultOf d.row (t.rows.get? d.row) d.change

theorem table?_apply (name : String) : (s.apply changes).state.table? name =
    (s.table? name).map fun t =>
      match changes.get? name with
      | none => t
      | some rows => (t.apply rows).state := by
  have seen := SortedMap.foldl_view (fun (a : Applied Store) name => a.state.table? name)
    (fun a e => applyTable a e.1 e.2) (fun _ rows t => t.map fun t => (t.apply rows).state)
    (fun a e _ ne => table?_applyTable_of_ne a e.1 e.2 ne)
    (fun a e => table?_applyTable_self a e.1 e.2) changes { state := s } name
  refine seen.trans ?_
  cases changes.get? name with
  | none => exact Option.map_id'.symm
  | some rows => rfl

theorem schema_apply : (s.apply changes).state.schema = s.schema :=
  List.foldlRecOn changes.toList _ (motive := fun a : Applied Store => a.state.schema = s.schema)
    rfl fun a kept e _ => (schema_applyTable a e.1 e.2).trans kept

theorem registry_apply : (s.apply changes).state.registry = s.registry :=
  List.foldlRecOn changes.toList _ (motive := fun a : Applied Store =>
    a.state.registry = s.registry) rfl fun a kept e _ => (registry_applyTable a e.1 e.2).trans kept

theorem binding_eq_ok_iff {s : Store} {table : String} {b : Binding} :
    s.binding table = .ok b ↔ ∃ t, s.table? table = some t ∧ t.binding = b := by
  rw [Store.binding]
  cases s.table? table <;> simp

/-- Changes of rows do not change what the tables are bound to. -/
@[simp]
theorem binding_apply (table : String) :
    (s.apply changes).state.binding table = s.binding table := by
  rw [Store.binding, Store.binding, table?_apply]
  cases s.table? table with
  | none => rfl
  | some t =>
    cases changes.get? table with
    | none => rfl
    | some rows => exact congrArg Except.ok (t.binding_apply rows)

variable {s changes} {table : String} {b : Binding}

theorem row?_apply (bound : s.binding table = .ok b) (id : String) :
    (s.apply changes).state.row? table id =
      b.follow id (s.row? table id) (changes.change? table id) := by
  obtain ⟨t, followed, rfl⟩ := binding_eq_ok_iff.mp bound
  rw [row?, row?, table?_apply, followed, Changes.change?]
  cases changes.get? table with
  | none => rfl
  | some rows => exact t.rows_apply rows id

variable (s changes)

/-- What is written down while changes are applied, table by table and row by row, is what each
change of a row adds to it, in the order of the changes. -/
theorem log_apply {γ : Type} (log : Applied Store → List γ)
    (inTable : StoredTable → TableChanges → List γ)
    (ofRow : StoredTable → String → RowChange → Option γ)
    (adds : ∀ a name rows, log (applyTable a name rows) =
      log a ++ (a.state.table? name).elim [] fun t => inTable t rows)
    (byRow : ∀ t rows, inTable t rows = rows.toList.filterMap fun e => ofRow t e.1 e.2) :
    log (s.apply changes) = log { state := s } ++ changes.deltas.filterMap fun d =>
      (s.table? d.table).bind fun t => ofRow t d.row d.change := by
  have logged := SortedMap.foldl_log (fun (a : Applied Store) name => a.state.table? name)
    (fun a e => applyTable a e.1 e.2) log (fun e t => t.elim [] fun t => inTable t e.2)
    (fun a e _ ne => table?_applyTable_of_ne a e.1 e.2 ne) (fun a e => adds a e.1 e.2)
    (SortedMap.keys_nodup changes) { state := s }
  refine logged.trans ?_
  rw [Changes.deltas, List.filterMap_flatMap]
  congr 2
  funext e
  rw [List.filterMap_map]
  cases followed : s.table? e.1 with
  | none => simp [followed]
  | some t => simp [followed, byRow]

theorem events_apply : (s.apply changes).events = changes.deltas.filterMap s.eventOf :=
  s.log_apply changes Applied.events (fun t rows => (t.apply rows).events)
    (fun t id c => t.binding.eventOf id (t.rows.get? id) c) events_applyTable
    StoredTable.events_apply

theorem faults_apply : (s.apply changes).faults = changes.deltas.filterMap s.faultOf :=
  s.log_apply changes Applied.faults (fun t rows => (t.apply rows).faults)
    (fun t id c => t.binding.faultOf id (t.rows.get? id) c) faults_applyTable
    StoredTable.faults_apply

/-- Changes are applied without a fault if none of them has one. -/
theorem faults_apply_eq_nil_iff :
    (s.apply changes).faults = [] ↔ ∀ d ∈ changes.deltas, s.faultOf d = none := by
  rw [faults_apply, List.filterMap_eq_nil_iff]

variable {s}

/-- A change that has an effect, or says nothing, has no fault. -/
theorem faultOf_eq_none {d : Delta} (applicable : ∀ b, s.binding d.table = .ok b →
    ∃ e, b.effect? d.row (s.row? d.table d.row) d.change = .ok e) : s.faultOf d = none := by
  rw [faultOf]
  cases followed : s.table? d.table with
  | none => rfl
  | some t =>
    obtain ⟨e, applies⟩ := applicable t.binding (binding_eq_ok_iff.mpr ⟨t, followed, rfl⟩)
    rw [row?, followed, Option.bind_some] at applies
    rw [Option.bind_some, Binding.faultOf, applies]

variable (s)

/-- The store after reports that have come in order. -/
def applyAll (reports : List Changes) : Store :=
  reports.foldl (fun s changes => (s.apply changes).state) s

/-- What applying the changes of a database keeps is kept over any number of reports. -/
theorem applyAll_invariant (kept : Store → Prop)
    (steps : ∀ s changes, kept s → kept (s.apply changes).state) {s : Store} (start : kept s)
    (reports : List Changes) : kept (s.applyAll reports) :=
  List.foldlRecOn reports _ (motive := kept) start fun s keeps changes _ => steps s changes keeps

end Store

/-- The record of a row after reports that have come in order. -/
def Binding.followAll (b : Binding) (table id : String) (known : Option Record)
    (reports : List Changes) : Option Record :=
  reports.foldl (fun known changes => b.follow id known (changes.change? table id)) known

theorem Store.row?_applyAll {s : Store} {table : String} {b : Binding}
    (bound : s.binding table = .ok b) (id : String) (reports : List Changes) :
    (s.applyAll reports).row? table id = b.followAll table id (s.row? table id) reports := by
  induction reports generalizing s with
  | nil => rfl
  | cons changes rest ih =>
    have bound' := (s.binding_apply changes table).trans bound
    refine (ih bound').trans ?_
    rw [row?_apply bound]
    rfl

theorem Store.row?_of_unbound {s : Store} {table : String}
    (unbound : ∀ b, s.binding table ≠ .ok b) (id : String) : s.row? table id = none := by
  rw [row?]
  cases followed : s.table? table with
  | none => rfl
  | some t => exact absurd (binding_eq_ok_iff.mpr ⟨t, followed, rfl⟩) (unbound t.binding)

/-! ## Calls -/

namespace Replica

/-- Applies reports in order, with the results of the calls. -/
def populateAll (p : Replica) : List Changes → Replica × List (Except ReplicaFault Unit)
  | [] => (p, [])
  | changes :: rest =>
    let (next, result) := p.populate changes
    let (last, results) := next.populateAll rest
    (last, result :: results)

theorem store_populateAll (p : Replica) (reports : List Changes) :
    (p.populateAll reports).1.store = p.store.applyAll reports := by
  induction reports generalizing p with
  | nil => rfl
  | cons changes rest ih => exact ih (p.populate changes).1

theorem populate_eq_ok_iff (p : Replica) (changes : Changes) :
    (p.populate changes).2 = .ok () ↔ (p.store.apply changes).faults = [] := by
  rw [populate]
  cases (p.store.apply changes).faults <;> simp

end Replica

end TableReplica
