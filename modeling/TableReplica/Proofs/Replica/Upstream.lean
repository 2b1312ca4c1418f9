import TableReplica.Proofs.Replica.Creation
import TableReplica.Proofs.Replica.Effect

/-!
# Upstream

The database that a replica follows, as a monitor of some of its columns sees it, and what the
monitor reports. A row is always reported with all of its monitored columns, and with the data that
were there before if it was there already (`RowStep`). For each row of a followed table such a
report can be applied to whatever the replica may know of the row, and leaves the record of the new
row (`Binding.effect?_of_rowStep`).
-/

namespace TableReplica

/-! ## Databases -/

/-- The rows of the tables of a database by identifier. -/
abbrev Database := SortedMap String (SortedMap String WireRow)

namespace Database

/-- The rows of a table. -/
def rows (d : Database) (table : String) : SortedMap String WireRow := (d.get? table).getD .empty

/-- The row of a table that has an identifier. -/
def row? (d : Database) (table id : String) : Option WireRow := (d.rows table).get? id

/-- The report of everything that a database holds: each row appears. -/
def contents (d : Database) : Changes :=
  d.mapValues fun _ rows => rows.mapValues fun _ row => .insert row

theorem change?_contents (d : Database) (table id : String) :
    d.contents.change? table id = (d.row? table id).map .insert := by
  rw [Changes.change?, contents, row?, rows, SortedMap.get?_mapValues]
  cases d.get? table with
  | none => rfl
  | some rows => exact SortedMap.get?_mapValues (fun _ row => RowChange.insert row) rows id

end Database

/-- The columns that are monitored of each table that a replica follows, at least one of each. -/
structure Subscription (schema : Schema) (registry : Registry) where
  columns : String → List String
  someColumn : ∀ table b, registry.binding? schema table = some b → columns table ≠ []

/-! ## Rows as they are monitored -/

namespace Binding

variable (b : Binding) (columns : List String)

/-- A row with all monitored columns and no others, whose data can be decoded. -/
structure Monitors (row : WireRow) : Prop where
  full : ∀ column, column ∈ row.keys ↔ column ∈ columns
  decodable : ∀ e ∈ row.toList, ∃ r, b.decodeColumn b.layout.blank e.1 e.2 = .ok r

/-- The fields that monitored columns are decoded into, with the one for the identifier. -/
def Watches (position : Nat) : Prop :=
  position = b.layout.identity ∨ ∃ column ∈ columns, b.target? column = some position

/-- The fields that no monitored column is decoded into have not been set. -/
def Tidy (known : Option Record) : Prop :=
  ∀ r ∈ known, Record.AgreeOff (b.Watches columns) r b.layout.blank

/-- The record of a row, if there is one: the row on top of a record whose fields have not been set,
with the identifier under which the row is reported. -/
def image (id : String) (row : Option WireRow) : Option Record :=
  row.bind fun row => (b.recordOf id b.layout.blank row).toOption

variable {b columns} {id : String} {row old : WireRow} {known : Option Record} {r : Record}

theorem image_of_recordOf (made : b.recordOf id b.layout.blank row = .ok r) :
    b.image id (some row) = some r := by
  rw [image, Option.bind_some, made]
  rfl

theorem covers_iff_of_full (full : ∀ column, column ∈ row.keys ↔ column ∈ columns)
    (position : Nat) : b.Covers row position ↔ b.Watches columns position := by
  rw [Covers, Watches, Reaches]
  constructor
  · rintro (isIdentity | ⟨e, member, target⟩)
    · exact .inl isIdentity
    · exact .inr ⟨e.1, (full e.1).mp (List.mem_map.mpr ⟨e, member, rfl⟩), target⟩
  · rintro (isIdentity | ⟨column, monitored, target⟩)
    · exact .inl isIdentity
    · obtain ⟨e, member, rfl⟩ := List.mem_map.mp ((full column).mpr monitored)
      exact .inr ⟨e, member, target⟩

namespace Monitors

theorem filled (monitored : b.Monitors columns row) (someColumn : columns ≠ []) :
    row.isEmpty = false := by
  obtain ⟨column, member⟩ := List.exists_mem_of_ne_nil columns someColumn
  obtain ⟨e, listed, -⟩ := List.mem_map.mp ((monitored.full column).mpr member)
  exact (SortedMap.isEmpty_eq_false_iff row).mpr ⟨e, listed⟩

/-- A monitored row has a record. -/
theorem exists_image (monitored : b.Monitors columns row) (id : String) :
    ∃ r, b.recordOf id b.layout.blank row = .ok r ∧ b.image id (some row) = some r := by
  obtain ⟨r, made⟩ := exists_recordOf id monitored.decodable
  exact ⟨r, made, image_of_recordOf made⟩

/-- On top of a record whose other fields have not been set, a monitored row has the same record as
on top of one without any field set. -/
theorem recordOf_eq (monitored : b.Monitors columns row)
    (tidy : Record.AgreeOff (b.Watches columns) r b.layout.blank) (id : String) :
    b.recordOf id r row = b.recordOf id b.layout.blank row :=
  recordOf_congr (tidy.mono fun position =>
    (covers_iff_of_full monitored.full position).mpr)

/-- Part of a monitored row can be decoded, and leaves the other fields unset. -/
theorem exists_recordOf_part (monitored : b.Monitors columns row)
    (part : ∀ e ∈ old.toList, e ∈ row.toList) (id : String) :
    ∃ r, b.recordOf id b.layout.blank old = .ok r
      ∧ Record.AgreeOff (b.Watches columns) r b.layout.blank := by
  obtain ⟨r, made⟩ := exists_recordOf id fun e member => monitored.decodable e (part e member)
  refine ⟨r, made, (recordOf_agreeOff made).mono fun position covered => ?_⟩
  apply (covers_iff_of_full monitored.full position).mp
  rcases covered with isIdentity | ⟨e, member, target⟩
  · exact .inl isIdentity
  · exact .inr ⟨e, part e member, target⟩

/-- A record from before a change is known, or comes from the old data of the change. -/
theorem exists_previous (monitored : b.Monitors columns row)
    (part : ∀ e ∈ old.toList, e ∈ row.toList) (tidy : b.Tidy columns known) (id : String) :
    ∃ r, b.previous id known old = .ok r
      ∧ Record.AgreeOff (b.Watches columns) r b.layout.blank := by
  cases known with
  | some known => exact ⟨known, rfl, tidy known rfl⟩
  | none => exact monitored.exists_recordOf_part part id

end Monitors

/-- The records of monitored rows leave the other fields unset. -/
theorem tidy_image {row : Option WireRow}
    (monitored : ∀ present ∈ row, b.Monitors columns present) :
    b.Tidy columns (b.image id row) := by
  intro r imaged
  cases row with
  | none => cases imaged
  | some row =>
    obtain ⟨s, made, imaged'⟩ := (monitored row rfl).exists_image id
    rw [imaged', Option.mem_some_iff] at imaged
    subst imaged
    refine (recordOf_agreeOff made).mono fun position => ?_
    exact (covers_iff_of_full (monitored row rfl).full position).mp

end Binding

/-! ## Changes upstream -/

/-- What a monitor reports when a row becomes another one. -/
inductive RowStep : Option WireRow → RowChange → Option WireRow → Prop
  | insert (new : WireRow) : RowStep none (.insert new) (some new)
  /-- With the new row come data of the old one, for the columns that have changed. -/
  | modify {before old : WireRow} (new : WireRow) (filled : old.isEmpty = false)
    (part : ∀ e ∈ old.toList, e ∈ before.toList) :
    RowStep (some before) (.modify old new) (some new)
  | delete (before : WireRow) : RowStep (some before) (.delete before) none

/-- What a monitor reports of a row, if it has changed: of a row that was there before, the data
that are not the same any more. -/
def RowChange.between? : Option WireRow → Option WireRow → Option RowChange
  | none, none => none
  | none, some new => some (.insert new)
  | some before, none => some (.delete before)
  | some before, some new =>
    if before = new then none
    else some (.modify (before.filter fun column datum => new.get? column ≠ some datum) new)

/-- Rows with the same columns that are not the same differ in some datum. -/
theorem RowChange.changed_filled {before new : WireRow} (sameColumns : before.keys = new.keys)
    (ne : before ≠ new) :
    (before.filter fun column datum => new.get? column ≠ some datum).isEmpty = false := by
  by_contra nothing
  apply ne
  refine SortedMap.eq_of_keys_eq sameColumns fun e member => ?_
  by_contra differs
  apply nothing
  rw [SortedMap.isEmpty_eq_false_iff]
  exact ⟨e, List.mem_filter.mpr ⟨member, by simpa using differs⟩⟩

theorem RowStep.between {before after : Option WireRow} {c : RowChange}
    (sameColumns : ∀ row ∈ before, ∀ row' ∈ after, row.keys = row'.keys)
    (reported : RowChange.between? before after = some c) : RowStep before c after := by
  cases before with
  | none =>
    cases after with
    | none => cases reported
    | some new =>
      cases reported
      exact .insert new
  | some before =>
    cases after with
    | none =>
      cases reported
      exact .delete before
    | some new =>
      rw [RowChange.between?] at reported
      split at reported
      next => cases reported
      next ne =>
        cases reported
        have filled := RowChange.changed_filled (sameColumns before rfl new rfl) ne
        exact .modify new filled fun e member => (List.mem_filter.mp member).1

theorem RowChange.eq_of_between?_eq_none {before after : Option WireRow}
    (silent : RowChange.between? before after = none) : after = before := by
  cases before with
  | none =>
    cases after with
    | none => rfl
    | some new => cases silent
  | some before =>
    cases after with
    | none => cases silent
    | some new =>
      rw [RowChange.between?] at silent
      split at silent
      next same => rw [same]
      next => cases silent

/-- What a monitor reports when one database becomes another. -/
def Database.report (before after : Database) : Changes :=
  .tabulate (fun table => some (.tabulate (fun id =>
    RowChange.between? (before.row? table id) (after.row? table id))
    ((before.rows table).keys ++ (after.rows table).keys))) (before.keys ++ after.keys)

theorem Database.change?_report (before after : Database) (table id : String) :
    (report before after).change? table id =
      RowChange.between? (before.row? table id) (after.row? table id) := by
  have silent : before.row? table id = none → after.row? table id = none →
      none = RowChange.between? (before.row? table id) (after.row? table id) := by
    intro absent absent'
    rw [absent, absent', RowChange.between?]
  rw [Changes.change?, report, SortedMap.get?_tabulate]
  split
  next =>
    rw [Option.bind_some, SortedMap.get?_tabulate]
    split
    next => rfl
    next unlisted =>
      rw [List.mem_append, not_or] at unlisted
      exact silent ((SortedMap.get?_eq_none_iff _ id).mpr unlisted.1)
        ((SortedMap.get?_eq_none_iff _ id).mpr unlisted.2)
  next unlisted =>
    rw [List.mem_append, not_or] at unlisted
    apply silent
    · rw [row?, rows, (SortedMap.get?_eq_none_iff before table).mpr unlisted.1]
      rfl
    · rw [row?, rows, (SortedMap.get?_eq_none_iff after table).mpr unlisted.2]
      rfl

/-- The report on a monitored row can be applied to whatever record is known of the row, as long as
the fields that are not monitored have not been set in it, and leaves the record of the new row. A
row that was not there before may be known by any record. -/
theorem Binding.effect?_of_rowStep {b : Binding} {columns : List String} {id : String}
    {known : Option Record} {before after : Option WireRow} {c : RowChange}
    (someColumn : columns ≠ []) (tidy : before ≠ none → b.Tidy columns known)
    (monitoredBefore : ∀ row ∈ before, b.Monitors columns row)
    (monitoredAfter : ∀ row ∈ after, b.Monitors columns row) (step : RowStep before c after) :
    ∃ e, b.effect? id known c = .ok (some e) ∧ e.record = b.image id after := by
  cases step with
  | insert new =>
    have monitored := monitoredAfter new rfl
    obtain ⟨r, made, imaged⟩ := monitored.exists_image id
    rw [effect?_of_insert known rfl (RowChange.newRow?_insert (monitored.filled someColumn)), made,
      imaged]
    exact ⟨_, rfl, rfl⟩
  | @modify before old new filled part =>
    have monitored := monitoredAfter new rfl
    obtain ⟨r, made, imaged⟩ := monitored.exists_image id
    obtain ⟨known', found, tidy'⟩ :=
      (monitoredBefore before rfl).exists_previous part (tidy (by simp)) id
    rw [effect?_of_modify (RowChange.oldRow?_modify filled)
      (RowChange.newRow?_modify (monitored.filled someColumn)), found]
    refine ⟨⟨some r, .update b.table known' r⟩, ?_, imaged.symm⟩
    exact Except.bind_eq_ok_iff.mpr ⟨known', rfl, by rw [monitored.recordOf_eq tidy', made]; rfl⟩
  | delete before =>
    have monitored := monitoredBefore before rfl
    obtain ⟨known', found, -⟩ :=
      monitored.exists_previous (fun _ member => member) (tidy (by simp)) id
    rw [effect?_of_delete (RowChange.oldRow?_delete (monitored.filled someColumn)) rfl, found]
    exact ⟨_, rfl, rfl⟩

variable {schema : Schema} {registry : Registry}

/-- A database whose rows, in the tables that are followed, are as they are monitored. -/
structure Upstream (m : Subscription schema registry) where
  database : Database
  monitored : ∀ table b, registry.binding? schema table = some b →
    ∀ id, ∀ row ∈ database.row? table id, b.Monitors (m.columns table) row

namespace Upstream

variable {m : Subscription schema registry}

/-- A transaction takes the database from one state to another, and these changes are reported: one
for each row of a followed table that was inserted, modified or deleted. -/
structure Step (before : Upstream m) (changes : Changes) (after : Upstream m) : Prop where
  reported : ∀ table b, registry.binding? schema table = some b →
    ∀ id, ∀ c ∈ changes.change? table id,
      RowStep (before.database.row? table id) c (after.database.row? table id)
  unreported : ∀ table b, registry.binding? schema table = some b →
    ∀ id, changes.change? table id = none →
      after.database.row? table id = before.database.row? table id

/-- Every change of the database has a report. -/
theorem step_report (before after : Upstream m) :
    Step before (before.database.report after.database) after where
  reported table b bound id c reported := by
    rw [Database.change?_report] at reported
    refine RowStep.between (fun row present row' present' => ?_) reported
    have full := (before.monitored table b bound id row present).full
    have full' := (after.monitored table b bound id row' present').full
    exact SortedMap.keys_eq_of_mem_iff fun column => (full column).trans (full' column).symm
  unreported table b _ id silent := by
    rw [Database.change?_report] at silent
    exact RowChange.eq_of_between?_eq_none silent

theorem Step.effect? {before after : Upstream m} {changes : Changes}
    (step : Step before changes after) {table : String} {b : Binding}
    (bound : registry.binding? schema table = some b) {id : String} {c : RowChange}
    (reported : changes.change? table id = some c) {known : Option Record}
    (tidy : before.database.row? table id ≠ none → b.Tidy (m.columns table) known) :
    ∃ e, b.effect? id known c = .ok (some e)
      ∧ e.record = b.image id (after.database.row? table id) :=
  Binding.effect?_of_rowStep (m.someColumn table b bound) tidy (before.monitored table b bound id)
    (after.monitored table b bound id) (step.reported table b bound id c reported)

/-- Transactions take the database from one state to another, and these are the reports on them. -/
inductive History : Upstream m → List Changes → Upstream m → Prop
  | refl (s : Upstream m) : History s [] s
  | step {first next last : Upstream m} {changes : Changes} {rest : List Changes}
    (head : Step first changes next) (tail : History next rest last) :
    History first (changes :: rest) last

/-- A database without rows. -/
def empty : Upstream m := ⟨.empty, by rintro table b - id row ⟨⟩⟩

/-- To report everything that a database holds is to report how it comes to be from one without
rows. -/
theorem step_contents (u : Upstream m) : Step empty u.database.contents u where
  reported table b _ id c reported := by
    rw [Database.change?_contents, Option.mem_def, Option.map_eq_some_iff] at reported
    obtain ⟨row, present, rfl⟩ := reported
    rw [present]
    exact .insert row
  unreported table b _ id silent := by
    rw [Database.change?_contents, Option.map_eq_none_iff] at silent
    exact silent

end Upstream

/-! ## An example -/

namespace Sample

/-- The subscription to the names of bridges. -/
def names : Subscription Sample.schema Sample.registry := ⟨fun _ => ["name"], by simp⟩

theorem monitors_row (name : String) :
    (Binding.mk bridges bridge).Monitors ["name"] (row name) where
  full _ := Iff.rfl
  decodable := by
    intro e member
    have same : e = ("name", .atom (.string name)) := List.mem_singleton.mp member
    subst same
    change ∃ r, (Binding.mk bridges bridge).decodeColumn bridge.blank "name" _ = _
    exact ⟨record "" name "", rfl⟩

/-- A database with bridges of some names. -/
def database (bridgeNames : SortedMap String String) : Database :=
  .insert .empty "Bridge" (bridgeNames.mapValues fun _ name => row name)

theorem row?_database (bridgeNames : SortedMap String String) (id : String) :
    (database bridgeNames).row? "Bridge" id = (bridgeNames.get? id).map row := by
  rw [Database.row?, Database.rows, database, SortedMap.get?_insert_self, Option.getD_some,
    SortedMap.get?_mapValues]

/-- Bridges of some names, as they are monitored. -/
def upstream (bridgeNames : SortedMap String String) : Upstream names where
  database := database bridgeNames
  monitored := by
    intro table b bound id monitoredRow present
    obtain ⟨rfl, rfl⟩ := binding?_eq_some bound
    rw [row?_database] at present
    obtain ⟨name, -, rfl⟩ := Option.map_eq_some_iff.mp present
    exact monitors_row name

end Sample

end TableReplica
