import TableReplica.Proofs.Query.Operations
import TableReplica.Proofs.Record.Encoding
import TableReplica.Proofs.Replica.Validity

/-!
# Inserting records

With a valid registry there is an operation that inserts it for every record of a registered type,
and a replica to which the row of the operation is reported holds the record again
(`Replica.populate_of_create`).
-/

namespace TableReplica

/-- Whether no table of a schema declares one of the columns that every table has. -/
def Schema.Unreserved (s : Schema) : Prop :=
  ∀ table t, s.table? table = some t → t.Unreserved

namespace Replica

variable {schema : Schema} {registry : Registry}

/-- A row that is reported alone, and has a record, is stored as that. -/
theorem populate_alone_of_recordOf {p : Replica} {table id : String} {b : Binding} {row : WireRow}
    {r : Record} (bound : p.store.binding table = .ok b) (filled : row.isEmpty = false)
    (made : b.recordOf id b.layout.blank row = .ok r) :
    (p.populate (Delta.alone ⟨table, id, .insert row⟩)).2 = .ok ()
      ∧ (p.populate (Delta.alone ⟨table, id, .insert row⟩)).1.store.row? table id = some r := by
  have applies : ∀ known, b.effect? id known (.insert row) =
      .ok (some ⟨some r, .add b.table r⟩) := by
    intro known
    rw [Binding.effect?_of_insert known rfl (RowChange.newRow?_insert filled), made]
    rfl
  constructor
  · rw [populate_eq_ok_iff, Store.faults_apply_eq_nil_iff, Delta.deltas_alone,
      List.forall_mem_singleton]
    refine Store.faultOf_eq_none fun b' bound' => ?_
    cases bound.symm.trans bound'
    exact ⟨_, applies _⟩
  · refine (Store.row?_apply bound id).trans ?_
    rw [Delta.change?_alone, Delta.place, if_pos rfl, Binding.follow, Binding.recordAfter, applies]

/-- With a registry that is valid for a schema, which declares none of the columns that every table
has, a replica can be made, and whatever it holds, there is an operation for every record of a
registered type that inserts the row of the record under the identifier of it. If the row is not
empty, its arrival under any identifier can be applied, and the record that is stored then has this
identifier and restores the other one. -/
theorem populate_of_create (valid : registry.validate schema = .ok ())
    (unreserved : schema.Unreserved) {capacity : Nat} {delivery : Delivery}
    (room : Delivery.new? capacity = some delivery) {r : Record} {table : String}
    (registered : registry.tableFor? r.type = some table) :
    ∃ start t l row, Replica.new schema registry capacity = .ok start
      ∧ schema.table? table = some t ∧ registry.layout? table = some l
      ∧ ∀ reports, let p := (start.populateAll reports).1
        p.store.create r =
            .ok { kind := .insert, table, row, uuidName := Binding.identity ⟨t, l⟩ r }
          ∧ (row.isEmpty = false → ∀ id, ∃ r',
            let arrival := Delta.alone ⟨table, id, .insert row⟩
            (p.populate arrival).2 = .ok ()
              ∧ (p.populate arrival).1.store.row? table id = some r'
              ∧ Binding.identity ⟨t, l⟩ r' = id
              ∧ Binding.Restores ⟨t, l⟩ r r') := by
  obtain ⟨l, laid, typed⟩ := Registry.exists_layout_of_tableFor? registered
  obtain ⟨t, present, fits⟩ := Registry.validate_eq_ok_iff.mp valid table l laid
  obtain ⟨start, created⟩ := exists_new valid room
  have bound : registry.binding? schema table = some ⟨t, l⟩ :=
    Registry.binding?_eq_some_iff.mpr ⟨laid, present⟩
  obtain ⟨row, encoded, restored⟩ :=
    Binding.recordOf_encode (b := ⟨t, l⟩) fits (unreserved table t present) typed.symm
  refine ⟨start, t, l, row, created, present, laid, fun reports => ?_⟩
  have serves := serves created reports
  have bound' := (serves.bindings table ⟨t, l⟩).mpr bound
  constructor
  · refine Store.create_eq_ok_iff.mpr ⟨table, ⟨t, l⟩, row, ?_, bound', encoded, rfl⟩
    rw [serves.sameRegistry]
    exact registered
  · intro filled id
    obtain ⟨r', made, restores⟩ := restored id
    obtain ⟨applied, stored⟩ := populate_alone_of_recordOf bound' filled made
    exact ⟨r', applied, stored, Binding.identity_of_recordOf made, restores⟩

end Replica

/-! ## An example -/

namespace Sample

/-- Records of switches with one port at most. -/
def uplink : Layout where
  type := {
    name := "Uplink"
    table := "Switch"
    fields := [⟨"uuid", "_uuid", .scalar .string⟩, ⟨"version", "_version", .scalar .string⟩,
      ⟨"name", "name", .scalar .string⟩, ⟨"port", "ports", .option .string⟩,
      ⟨"protocol", "protocols", .scalar .string⟩] }
  hasTable := by decide
  columnsDistinct := by decide
  hasIdentity := by decide

/-- The registry of these records. -/
def uplinks : Registry := (Registry.empty "Sample").insert uplink

/-- A switch with a port that the same transaction inserts. It has no protocol, and a version of
which the table does not know. -/
def newSwitch : Record := ⟨uplink.type, ("new_switch", "7", "br0", some "new_port", "", ())⟩

theorem network_unreserved : network.Unreserved := by
  intro table t present column implicit
  have placed : network.table? table = if table = "Switch" then some switches else none :=
    SortedMap.get?_insert .empty "Switch" table switches
  rw [placed] at present
  split at present
  next =>
    cases present
    rw [Identifier.isImplicit, Bool.or_eq_true, beq_iff_eq, beq_iff_eq] at implicit
    rcases implicit with rfl | rfl <;> rfl
  next => cases present

end Sample

/-- The switch is inserted by its name and its port, and comes back with another identifier. -/
theorem Replica.populate_of_create_switch :
    Sample.uplinks.validate Sample.network = .ok ()
      ∧ ∃ start row, Replica.new Sample.network Sample.uplinks 4 = .ok start
        ∧ start.store.create Sample.newSwitch =
          .ok { kind := .insert, table := "Switch", row, uuidName := "new_switch" }
        ∧ row.keys = ["name", "ports"]
        ∧ ∃ r', (start.populate (Delta.alone ⟨"Switch", "1", .insert row⟩)).1.store.row? "Switch" "1" =
            some r'
          ∧ Binding.Restores ⟨Sample.switches, Sample.uplink⟩ Sample.newSwitch r' := by
  have valid : Sample.uplinks.validate Sample.network = .ok () := rfl
  obtain ⟨delivery, room⟩ : ∃ delivery, Delivery.new? 4 = some delivery := ⟨_, rfl⟩
  have registered : Sample.uplinks.tableFor? Sample.newSwitch.type = some "Switch" := rfl
  obtain ⟨start, t, l, row, created, present, laid, inverse⟩ :=
    populate_of_create valid Sample.network_unreserved room registered
  cases created
  cases present
  cases laid
  obtain ⟨made, stored⟩ := inverse []
  cases made
  obtain ⟨r', -, stored, -, restores⟩ := stored rfl "1"
  exact ⟨valid, _, _, rfl, rfl, rfl, r', stored, restores⟩

end TableReplica
