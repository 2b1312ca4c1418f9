import TableReplica.Proofs.Record.Validation
import TableReplica.Proofs.Replica.Independence

/-!
# Replicas with a valid registry

If a registry is valid for a schema, a replica can be made for them (`Replica.exists_new`), and the
rows whose data the columns decode can be applied to it as far as records can hold them: not if
there are several elements for a field with room for one, and not if a column for versions, which
the validation passes over, has values of another type than the field
(`Registry.decode_iff_holdable_of_valid`).
-/

namespace TableReplica

variable {schema : Schema} {registry : Registry}

/-! ## New replicas -/

theorem Store.exists_new (valid : registry.validate schema = .ok ()) :
    ∃ s, Store.new schema registry = .ok s := by
  refine exists_new_iff.mpr fun table listed => ?_
  obtain ⟨l, registered⟩ := (SortedMap.mem_keys_iff _ table).mp listed
  obtain ⟨t, present, -⟩ := Registry.validate_eq_ok_iff.mp valid table l registered
  exact ⟨t, present⟩

/-- A replica can be made for a schema with a registry that is valid for it. -/
theorem Replica.exists_new (valid : registry.validate schema = .ok ()) {capacity : Nat}
    {delivery : Delivery} (room : Delivery.new? capacity = some delivery) :
    ∃ start, Replica.new schema registry capacity = .ok start := by
  obtain ⟨s, made⟩ := Store.exists_new valid
  exact ⟨⟨s, delivery⟩, new_eq_ok_iff.mpr ⟨made, room⟩⟩

/-! ## Changes that can be applied -/

/-- The change of a row has an effect, or says nothing, if what it says about the row before and
after can be decoded onto the records of the table. -/
theorem Binding.exists_effect? {b : Binding} (id : String) {known : Option Record} {c : RowChange}
    (typed : ∀ r ∈ known, r.type = b.layout.type)
    (decodable : ∀ row, c.old = some row ∨ c.new = some row →
      ∀ r, r.type = b.layout.type → ∃ after, b.decode row r = .ok after) :
    ∃ e, b.effect? id known c = .ok e := by
  have before : ∀ old, c.oldRow? = some old →
      ∃ r, b.previous id known old = .ok r ∧ r.type = b.layout.type := by
    intro old said
    cases known with
    | some r => exact ⟨r, rfl, typed r rfl⟩
    | none =>
      have decodes := decodable old (.inl (Option.filter_eq_some_iff.mp said).1) b.layout.blank rfl
      obtain ⟨r, made⟩ := exists_recordOf_of_decode id rfl decodes
      exact ⟨r, made, type_of_recordOf made⟩
  have after : ∀ new base, c.newRow? = some new → base.type = b.layout.type →
      ∃ r, b.recordOf id base new = .ok r := by
    intro new base said typed
    have decodes := decodable new (.inr (Option.filter_eq_some_iff.mp said).1) base typed
    exact exists_recordOf_of_decode id typed decodes
  cases old : c.oldRow? with
  | none =>
    cases new : c.newRow? with
    | none => exact ⟨none, effect?_of_silence old new⟩
    | some row =>
      obtain ⟨r, made⟩ := after row b.layout.blank new rfl
      exact ⟨_, by rw [effect?_of_insert known old new, made]; rfl⟩
  | some row =>
    obtain ⟨r, found, typed'⟩ := before row old
    cases new : c.newRow? with
    | none => exact ⟨_, by rw [effect?_of_delete old new, found]; rfl⟩
    | some row' =>
      obtain ⟨r', made⟩ := after row' r new typed'
      exact ⟨_, by rw [effect?_of_modify old new, found, Except.ok_bind, made]; rfl⟩

/-- A change in a report is not reported as not applied if what it says can be decoded onto the
records of its table. -/
theorem Replica.not_reported_of_decodable {capacity : Nat} {start : Replica}
    (created : Replica.new schema registry capacity = .ok start) (earlier : List Changes)
    {changes : Changes} {d : Delta} (member : d ∈ changes.deltas) {b : Binding}
    (bound : registry.binding? schema d.table = some b)
    (decodable : ∀ row, d.change.old = some row ∨ d.change.new = some row →
      ∀ r, r.type = b.layout.type → ∃ after, b.decode row r = .ok after) :
    ∀ f ∈ reported ((start.populateAll earlier).1.populate changes).2, f.place ≠ d.place := by
  intro f listed samePlace
  have sound := sound created earlier
  have serves := serves created earlier
  rw [reported_populate, Store.mem_faults_apply_iff sound] at listed
  obtain ⟨d', member', samePlace', b', bound', refused⟩ := listed
  -- A report has one change of the row.
  obtain ⟨sameTable, sameRow⟩ := Prod.ext_iff.mp (samePlace'.symm.trans samePlace)
  change d'.table = d.table at sameTable
  change d'.row = d.row at sameRow
  rw [Changes.mem_deltas_iff] at member member'
  rw [sameTable, sameRow, member, Option.some.injEq] at member'
  rw [sameTable] at bound'
  rw [sameTable, sameRow, ← member'] at refused
  cases bound.symm.trans ((serves.bindings d.table b').mp bound')
  have typed : ∀ r ∈ (start.populateAll earlier).1.store.row? d.table d.row,
      r.type = b.layout.type := by
    intro r found
    obtain ⟨t, followed, isBound⟩ := Store.binding_eq_ok_iff.mp bound'
    rw [Store.row?, followed] at found
    exact isBound ▸ (sound.tables d.table t followed d.row r found).typed
  obtain ⟨e, applies⟩ := Binding.exists_effect? d.row typed decodable
  cases applies.symm.trans refused

/-- A schema for which a registry is valid has the tables of all of its record types. A row whose
data the columns of such a table decode, and whose identifier is one, is decoded onto a record
exactly if a record can hold it; so no change with rows that can be held is ever reported as not
applied. -/
theorem Registry.decode_iff_holdable_of_valid (valid : registry.validate schema = .ok ())
    {table : String} {l : Layout} (registered : registry.layout? table = some l) :
    ∃ t, schema.table? table = some t
      ∧ (∀ r row, r.type = l.type → Binding.Readable ⟨t, l⟩ row →
        ((∃ after, Binding.decode ⟨t, l⟩ row r = .ok after) ↔ Binding.Holdable ⟨t, l⟩ row))
      ∧ ∀ capacity start, Replica.new schema registry capacity = .ok start →
        ∀ earlier changes, ∀ d ∈ Changes.deltas changes, d.table = table →
          (∀ row, d.change.old = some row ∨ d.change.new = some row →
            Binding.Readable ⟨t, l⟩ row ∧ Binding.Holdable ⟨t, l⟩ row) →
          ∀ f ∈ Replica.reported ((start.populateAll earlier).1.populate changes).2,
            f.place ≠ d.place := by
  obtain ⟨t, present, fits⟩ := validate_eq_ok_iff.mp valid table l registered
  have decodes : ∀ r row, r.type = l.type → Binding.Readable ⟨t, l⟩ row →
      ((∃ after, Binding.decode ⟨t, l⟩ row r = .ok after) ↔ Binding.Holdable ⟨t, l⟩ row) :=
    fun r row typed readable => Binding.exists_decode_iff_holdable fits typed readable
  refine ⟨t, present, decodes, ?_⟩
  rintro capacity start created earlier changes d member rfl held
  have bound : registry.binding? schema d.table = some ⟨t, l⟩ :=
    binding?_eq_some_iff.mpr ⟨registered, present⟩
  refine Replica.not_reported_of_decodable created earlier member bound fun row said r typed => ?_
  obtain ⟨readable, holdable⟩ := held row said
  exact (decodes r row typed readable).mpr holdable

/-! ## An example -/

namespace Sample

/-- A table of switches whose versions are numbers. -/
def numberedSwitches : TableSchema where
  columns := .ofList [
    ("_version", { name := "_version", kind := .atomic .integer, type? := none }),
    ("name", { name := "name", kind := .atomic .string, type? := none }), ("ports", ports)]

/-- The schema with that table. -/
def numbered : Schema where
  name := "Sample"
  tables := .ofList [("Switch", numberedSwitches)]

/-- Records of switches with one port at most, whose versions are texts. -/
def plug : Layout where
  type := {
    name := "Plug"
    table := "Switch"
    fields := [⟨"uuid", "_uuid", .scalar .string⟩, ⟨"version", "_version", .scalar .string⟩,
      ⟨"name", "name", .scalar .string⟩, ⟨"port", "ports", .option .string⟩] }
  hasTable := by decide
  columnsDistinct := by decide
  hasIdentity := by decide

/-- The registry of these records. -/
def plugs : Registry := (Registry.empty "Sample").insert plug

/-- The row of a switch with ports. -/
def plugged (ids : List String) : WireRow :=
  .ofList [("_uuid", .atom (.uuid "1")), ("ports", .set (ids.map .uuid))]

/-- The columns in which a switch has data for the fields of these records. -/
theorem supplies_plug {row : WireRow} {f : Field} {c : ColumnSchema} {datum : Datum}
    (supplies : Binding.Supplies ⟨numberedSwitches, plug⟩ row f c datum) :
    (f.column = "_version" ∧ f.type = .scalar .string ∧ c.kind = .atomic .integer)
      ∨ (f.column = "name" ∧ f.type = .scalar .string ∧ c.kind = .atomic .string)
      ∨ f.column = "ports" ∧ f.type = .option .string ∧ c = ports := by
  obtain ⟨mapped, notIdentity, present, -⟩ := supplies
  simp only [plug, Layout.fields, List.mem_cons, List.not_mem_nil, or_false] at mapped
  rcases mapped with rfl | rfl | rfl | rfl
  · exact absurd rfl notIdentity
  all_goals
    cases present
    simp

/-- The row of a switch with a number as its version. -/
def revised (version : Int64) : WireRow := .ofList [("_version", .atom (.integer version))]

theorem decode_ports (ids : List String) :
    ports.decode (.set (ids.map .uuid)) = .ok (.set (ids.map .string)) := by
  have each : List.Forall₂ (fun a s => AtomicType.uuid.decode? a = some s) (ids.map .uuid)
      (ids.map .string) := by
    rw [List.forall₂_map_left_iff, List.forall₂_map_right_iff, List.forall₂_same]
    exact fun _ _ => rfl
  exact ColumnSchema.decode_of_decodes rfl (.set rfl (.set _) each)

theorem get?_plugged (ids : List String) (column : String) : (plugged ids).get? column =
    if column = "ports" then some (.set (ids.map .uuid))
    else if column = "_uuid" then some (.atom (.uuid "1")) else none := by
  rw [plugged, SortedMap.ofList, List.foldl_cons, List.foldl_cons, List.foldl_nil,
    SortedMap.get?_insert, SortedMap.get?_insert]
  rfl

theorem get?_revised (version : Int64) (column : String) : (revised version).get? column =
    if column = "_version" then some (.atom (.integer version)) else none :=
  SortedMap.get?_insert .empty "_version" column _

theorem readable_plugged (ids : List String) :
    Binding.Readable ⟨numberedSwitches, plug⟩ (plugged ids) := by
  constructor
  · intro datum given
    rw [get?_plugged] at given
    cases given
    exact ⟨"1", rfl⟩
  · intro f c datum supplies
    have given := supplies.given
    rw [get?_plugged] at given
    rcases supplies_plug supplies with ⟨column, -⟩ | ⟨column, -⟩ | ⟨column, -, rfl⟩ <;>
      rw [column] at given <;> cases given
    exact ⟨_, decode_ports ids⟩

theorem holdable_plugged {ids : List String} (single : ids.length ≤ 1) :
    Binding.Holdable ⟨numberedSwitches, plug⟩ (plugged ids) := by
  constructor
  · intro f c datum element atoms supplies isOption lists
    have given := supplies.given
    rw [get?_plugged] at given
    rcases supplies_plug supplies with ⟨-, typed, -⟩ | ⟨-, typed, -⟩ | ⟨column, -, -⟩
    · cases typed.symm.trans isOption
    · cases typed.symm.trans isOption
    · rw [column] at given
      cases given
      cases lists
      rw [List.length_map]
      exact single
  · intro f c datum value supplies version _
    have given := supplies.given
    rw [get?_plugged, version] at given
    cases given

theorem readable_revised (version : Int64) :
    Binding.Readable ⟨numberedSwitches, plug⟩ (revised version) := by
  constructor
  · intro datum given
    rw [get?_revised] at given
    cases given
  · intro f c datum supplies
    have given := supplies.given
    have present := supplies.present
    rw [get?_revised] at given
    rcases supplies_plug supplies with ⟨column, -⟩ | ⟨column, -⟩ | ⟨column, -⟩ <;>
      rw [column] at given present <;> cases given
    cases present
    exact ⟨.scalar (.integer version), rfl⟩

end Sample

/-- A switch with one port can be held, and its arrival is not reported as not applied. -/
theorem Registry.decode_iff_holdable_of_valid_plugged :
    Sample.plugs.validate Sample.numbered = .ok ()
      ∧ Sample.plugs.layout? "Switch" = some Sample.plug
      ∧ ∃ start, Replica.new Sample.numbered Sample.plugs 4 = .ok start
        ∧ ∀ f ∈ Replica.reported ((start.populateAll []).1.populate
            (Delta.alone ⟨"Switch", "1", .insert (Sample.plugged ["2"])⟩)).2,
          f.place ≠ ("Switch", "1") := by
  have valid : Sample.plugs.validate Sample.numbered = .ok () := rfl
  have registered : Sample.plugs.layout? "Switch" = some Sample.plug := rfl
  obtain ⟨start, created⟩ : ∃ start, Replica.new Sample.numbered Sample.plugs 4 = .ok start :=
    ⟨_, rfl⟩
  obtain ⟨t, present, -, applied⟩ := decode_iff_holdable_of_valid valid registered
  cases present
  refine ⟨valid, registered, start, created, ?_⟩
  refine applied 4 start created [] _ ⟨"Switch", "1", _⟩ List.mem_cons_self rfl ?_
  rintro row (⟨⟨⟩⟩ | ⟨⟨⟩⟩)
  exact ⟨Sample.readable_plugged ["2"], Sample.holdable_plugged (Nat.le_refl 1)⟩

/-- A switch with two ports and one with a number as its version are data that the columns of the
table decode and that the records of a valid registry do not hold, so their arrival is reported as
not applied. -/
theorem Registry.valid_data_not_held :
    Sample.plugs.validate Sample.numbered = .ok ()
      ∧ Sample.plugs.layout? "Switch" = some Sample.plug
      ∧ ∃ start, Replica.new Sample.numbered Sample.plugs 4 = .ok start
        ∧ ∀ row ∈ [Sample.plugged ["2", "3"], Sample.revised 5],
          Binding.Readable ⟨Sample.numberedSwitches, Sample.plug⟩ row
            ∧ (¬ ∃ after,
              Binding.decode ⟨Sample.numberedSwitches, Sample.plug⟩ row Sample.plug.blank = .ok after)
            ∧ ∃ cause, Replica.reported
              (start.populate (Delta.alone ⟨"Switch", "1", .insert row⟩)).2 =
                [⟨"Switch", "1", cause⟩] := by
  refine ⟨rfl, rfl, _, rfl, ?_⟩
  rintro row member
  simp only [List.mem_cons, List.not_mem_nil, or_false] at member
  rcases member with rfl | rfl
  · refine ⟨Sample.readable_plugged ["2", "3"], ?_, _, rfl⟩
    rintro ⟨_, ⟨⟩⟩
  · refine ⟨Sample.readable_revised 5, ?_, _, rfl⟩
    rintro ⟨_, ⟨⟩⟩

end TableReplica
