import TableReplica.Proofs.Failure
import TableReplica.Proofs.Replica.Apply

/-!
# New replicas

A replica can be made if the schema has a table for every record type; it then holds the tables that
have a record type and no others, without rows and without events that wait (`Store.table?_new`,
`Replica.new_eq_ok_iff`).
-/

namespace TableReplica

namespace Registry

variable (g : Registry) (schema : Schema)

/-- The binding of a table that has a record type and is part of a schema. -/
def binding? (table : String) : Option Binding :=
  (g.layout? table).bind fun l => (schema.table? table).map fun t => ⟨t, l⟩

variable {g schema} {table : String} {b : Binding}

theorem binding?_eq_some_iff : g.binding? schema table = some b ↔
    g.layout? table = some b.layout ∧ schema.table? table = some b.schema := by
  rw [binding?, Option.bind_eq_some_iff]
  constructor
  · rintro ⟨l, registered, found⟩
    obtain ⟨t, present, rfl⟩ := Option.map_eq_some_iff.mp found
    exact ⟨registered, present⟩
  · rintro ⟨registered, present⟩
    exact ⟨b.layout, registered, Option.map_eq_some_iff.mpr ⟨b.schema, present, rfl⟩⟩

/-- A binding bears the name of its table. -/
theorem table_of_binding? (bound : g.binding? schema table = some b) : b.table = table :=
  g.keyed table b.layout (binding?_eq_some_iff.mp bound).1

end Registry

namespace Store

variable {schema : Schema} {registry : Registry} {s : Store}

theorem new_eq_ok_iff : Store.new schema registry = .ok s ↔
    ∃ tables, registry.layouts.mapValuesExcept (bind schema) = .ok tables
      ∧ s = ⟨schema, registry, tables⟩ := by
  rw [Store.new, Except.bind_eq_ok_iff]
  constructor
  · rintro ⟨tables, bound, made⟩
    cases made
    exact ⟨tables, bound, rfl⟩
  · rintro ⟨tables, bound, rfl⟩
    exact ⟨tables, bound, rfl⟩

/-- A new store has the tables that have a record type, without rows. -/
theorem table?_new (created : Store.new schema registry = .ok s) (table : String) :
    s.table? table = (registry.binding? schema table).map fun b => { binding := b } := by
  obtain ⟨tables, made, rfl⟩ := new_eq_ok_iff.mp created
  have placed := SortedMap.get?_mapValuesExcept made table
  rw [table?, Registry.binding?, Registry.layout?]
  cases registered : registry.layouts.get? table with
  | none =>
    rw [registered] at placed
    rw [placed]
    rfl
  | some l =>
    rw [registered] at placed
    obtain ⟨t, bound, found⟩ := placed
    rw [Store.bind] at bound
    rw [found, Option.bind_some]
    cases present : schema.table? table with
    | none =>
      rw [present] at bound
      cases bound
    | some ts =>
      rw [present] at bound
      cases bound
      rfl

/-- A store of the tables that have a record type, each with its binding. -/
structure Serves (s : Store) (schema : Schema) (registry : Registry) : Prop where
  sameSchema : s.schema = schema
  sameRegistry : s.registry = registry
  bindings : ∀ table b, s.binding table = .ok b ↔ registry.binding? schema table = some b

theorem serves_new (created : Store.new schema registry = .ok s) : s.Serves schema registry := by
  have tables := table?_new created
  obtain ⟨_, _, rfl⟩ := new_eq_ok_iff.mp created
  refine ⟨rfl, rfl, fun table b => ?_⟩
  rw [binding_eq_ok_iff, tables]
  cases registry.binding? schema table <;> simp

theorem Serves.apply (serves : s.Serves schema registry) (changes : Changes) :
    (s.apply changes).state.Serves schema registry where
  sameSchema := (s.schema_apply changes).trans serves.sameSchema
  sameRegistry := (s.registry_apply changes).trans serves.sameRegistry
  bindings table b := by rw [binding_apply, serves.bindings table b]

theorem Serves.applyAll (serves : s.Serves schema registry) (reports : List Changes) :
    (s.applyAll reports).Serves schema registry :=
  applyAll_invariant (fun s => s.Serves schema registry)
    (fun _ changes kept => kept.apply changes) serves reports

/-- There is a table for every record type. -/
theorem exists_binding_new (created : Store.new schema registry = .ok s) {table : String}
    {l : Layout} (registered : registry.layout? table = some l) :
    ∃ b, registry.binding? schema table = some b ∧ b.layout = l := by
  obtain ⟨tables, made, rfl⟩ := new_eq_ok_iff.mp created
  have placed := SortedMap.get?_mapValuesExcept made table
  rw [Registry.layout?] at registered
  rw [registered] at placed
  obtain ⟨t, bound, -⟩ := placed
  rw [Store.bind] at bound
  cases present : schema.table? table with
  | none =>
    rw [present] at bound
    cases bound
  | some ts => exact ⟨⟨ts, l⟩, Registry.binding?_eq_some_iff.mpr ⟨registered, present⟩, rfl⟩

/-- There is a store exactly if the schema has a table for every record type. -/
theorem exists_new_iff :
    (∃ s, Store.new schema registry = .ok s) ↔
      ∀ table ∈ registry.tables, ∃ t, schema.table? table = some t := by
  constructor
  · rintro ⟨s, created⟩ table listed
    obtain ⟨l, registered⟩ := (SortedMap.mem_keys_iff _ table).mp listed
    obtain ⟨b, bound, -⟩ := exists_binding_new created registered
    exact ⟨b.schema, (Registry.binding?_eq_some_iff.mp bound).2⟩
  · intro present
    have bound : ∃ tables, registry.layouts.mapValuesExcept (bind schema) = .ok tables := by
      refine SortedMap.exists_mapValuesExcept fun table l registered => ?_
      obtain ⟨t, found⟩ := present table ((SortedMap.mem_keys_iff _ table).mpr ⟨l, registered⟩)
      exact ⟨_, by rw [bind, found]⟩
    obtain ⟨tables, bound⟩ := bound
    exact ⟨_, new_eq_ok_iff.mpr ⟨tables, bound, rfl⟩⟩

theorem row?_new (created : Store.new schema registry = .ok s) (table id : String) :
    s.row? table id = none := by
  rw [row?, table?_new created]
  cases registry.binding? schema table <;> rfl

end Store

/-- A replica can be made from a store that can be made and a delivery of the capacity that is asked
for. -/
theorem Replica.new_eq_ok_iff {schema : Schema} {registry : Registry} {capacity : Nat}
    {p : Replica} : Replica.new schema registry capacity = .ok p ↔
      Store.new schema registry = .ok p.store ∧ Delivery.new? capacity = some p.delivery := by
  rw [Replica.new]
  by_cases zero : capacity = 0
  · simp [zero, Delivery.new?]
  · rw [if_neg zero]
    constructor
    · intro made
      obtain ⟨s, stored, made⟩ := Except.bind_eq_ok_iff.mp made
      have stored' := Except.mapError_eq_ok_iff.mp (Except.mapError_eq_ok_iff.mp stored)
      split at made
      next d possible =>
        cases made
        exact ⟨stored', possible⟩
      next => cases made
    · rintro ⟨stored, possible⟩
      rw [stored, possible]
      rfl

/-- A buffer is found to be too large when there is a store already. -/
theorem Replica.new_eq_huge_iff {schema : Schema} {registry : Registry} {capacity : Nat} :
    Replica.new schema registry capacity = .error .hugeEventBuffer ↔
      (∃ s, Store.new schema registry = .ok s) ∧ Queue.maxCapacity < capacity := by
  rw [Replica.new]
  by_cases zero : capacity = 0
  · rw [if_pos zero, zero]
    refine iff_of_false (by simp) ?_
    rintro ⟨-, huge⟩
    exact Nat.not_lt_zero _ huge
  · rw [if_neg zero]
    cases Store.new schema registry with
    | error cause =>
      constructor
      · intro failed
        cases failed
      · rintro ⟨⟨s, created⟩, -⟩
        cases created
    | ok s =>
      by_cases room : capacity ≤ Queue.maxCapacity
      · rw [Delivery.new?, dif_pos ⟨Nat.pos_of_ne_zero zero, room⟩]
        constructor
        · intro failed
          cases failed
        · rintro ⟨-, huge⟩
          exact absurd huge (Nat.not_lt.mpr room)
      · rw [Delivery.new?, dif_neg fun possible => room possible.2]
        exact iff_of_true rfl ⟨⟨s, rfl⟩, Nat.lt_of_not_le room⟩

/-- Whatever has been reported to a replica, it follows the tables that it was made for. -/
theorem Replica.serves {schema : Schema} {registry : Registry} {capacity : Nat} {start : Replica}
    (created : Replica.new schema registry capacity = .ok start) (reports : List Changes) :
    (start.populateAll reports).1.store.Serves schema registry := by
  rw [store_populateAll]
  exact (Store.serves_new (new_eq_ok_iff.mp created).1).applyAll reports

/-! ## An example -/

namespace Sample

/-- A table of bridges, each with a name and a kind of datapath, by either of which it can be told
from the others. -/
def bridges : TableSchema where
  columns := .ofList [
    ("datapath_type", { name := "datapath_type", kind := .atomic .string, type? := none }),
    ("name", { name := "name", kind := .atomic .string, type? := none })]
  indexes := [["name"], ["datapath_type"]]

/-- A database with that table alone. -/
def schema : Schema where
  name := "Sample"
  tables := .ofList [("Bridge", bridges)]

/-- Records that stand for bridges. -/
def bridge : Layout where
  type := {
    name := "Bridge"
    table := "Bridge"
    fields := [⟨"uuid", "_uuid", .scalar .string⟩, ⟨"name", "name", .scalar .string⟩,
      ⟨"datapathType", "datapath_type", .scalar .string⟩] }
  hasTable := by decide
  columnsDistinct := by decide
  hasIdentity := by decide

/-- The registry of these records. -/
def registry : Registry := (Registry.empty "Sample").insert bridge

/-- The record of a bridge. -/
def record (id name datapathType : String) : Record := ⟨bridge.type, (id, name, datapathType, ())⟩

/-- The row of a bridge of which the name alone is monitored. -/
def row (name : String) : WireRow := .ofList [("name", .atom (.string name))]

theorem binding?_eq_some {table : String} {b : Binding}
    (bound : registry.binding? schema table = some b) :
    table = "Bridge" ∧ b = ⟨bridges, bridge⟩ := by
  obtain ⟨registered, present⟩ := Registry.binding?_eq_some_iff.mp bound
  have placed : registry.layout? table = if table = "Bridge" then some bridge else none :=
    SortedMap.get?_insert .empty "Bridge" table bridge
  rw [placed] at registered
  split at registered
  next same =>
    subst same
    have present' : some bridges = some b.schema := present
    obtain ⟨t, l⟩ := b
    cases present'
    cases registered
    exact ⟨rfl, rfl⟩
  next => cases registered

theorem exists_replica : ∃ start, Replica.new schema registry 4 = .ok start := ⟨_, rfl⟩

end Sample

end TableReplica
