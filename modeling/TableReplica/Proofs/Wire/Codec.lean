import Mathlib.Data.List.Count
import Mathlib.Data.List.Perm.Basic
import TableReplica.Proofs.Json.Records
import TableReplica.Wire.Change
import TableReplica.Wire.Monitor
import TableReplica.Wire.Outcome

/-!
# Writing and reading messages

A message that has been written is read as what it was (`messages_round_trip`). The exception are
reals that are not finite: JSON has no number for them.
-/

namespace TableReplica

/-! ## Writable messages -/

/-- Whether JSON can write all atoms of a datum, and below of a row and of a message. -/
def Datum.isWritable : Datum → Bool
  | .atom a => a.isWritable
  | .set atoms => atoms.all Atom.isWritable
  | .map entries => entries.all fun e => e.1.isWritable && e.2.isWritable

def WireRow.isWritable (row : WireRow) : Bool := row.toList.all fun e => e.2.isWritable

def RowChange.isWritable (c : RowChange) : Bool :=
  c.old.all WireRow.isWritable && c.new.all WireRow.isWritable

def Changes.isWritable (changes : Changes) : Bool :=
  changes.toList.all fun table => table.2.toList.all fun e => e.2.isWritable

def Outcome.isWritable (o : Outcome) : Bool :=
  o.uuid.all Atom.isWritable && o.rows.all WireRow.isWritable

/-! ## Data -/

theorem Atom.read_toJson {a : Atom} (writable : a.isWritable = true) : read a.toJson = .ok a :=
  Except.mapError_eq_ok_iff.mpr (ofJson_toJson writable)

theorem Atom.toJson_ne_null {a : Atom} (writable : a.isWritable = true) : a.toJson ≠ .null := by
  intro null
  have written := ofJson_toJson writable
  rw [null] at written
  cases written

namespace Datum

/-- An atom is never taken for a set or a map. -/
theorem ofJson_toJson_atom {a : Atom} (writable : a.isWritable = true) :
    ofJson a.toJson = .ok (.atom a) := by
  cases a with
  | integer | boolean | string | uuid | namedUuid => rfl
  | real r =>
    have finite : r.isFinite = true := writable
    have number : (Atom.real r).toJson = .number (.real r finite) := by
      rw [Atom.toJson, Json.ofReal, Number.ofReal?, dif_pos finite]
    rw [number]
    rfl

theorem ofJson_toJson {d : Datum} (writable : d.isWritable = true) : ofJson d.toJson = .ok d := by
  cases d with
  | atom a => exact ofJson_toJson_atom writable
  | set atoms =>
    have back : (atoms.map Atom.toJson).mapM Atom.ofJson = .ok atoms :=
      Except.mapM_map_eq_ok fun a member =>
        Atom.ofJson_toJson (List.all_eq_true.mp writable a member)
    exact Except.bind_eq_ok_iff.mpr ⟨atoms, back, rfl⟩
  | map entries =>
    have back : (entries.map entryToJson).mapM entryOfJson = .ok entries := by
      refine Except.mapM_map_eq_ok fun e member => ?_
      have both := List.all_eq_true.mp writable e member
      rw [Bool.and_eq_true] at both
      exact Except.bind_eq_ok_iff.mpr ⟨e.1, Atom.ofJson_toJson both.1,
        Except.bind_eq_ok_iff.mpr ⟨e.2, Atom.ofJson_toJson both.2, rfl⟩⟩
    exact Except.bind_eq_ok_iff.mpr ⟨entries, back, rfl⟩

theorem read_toJson {d : Datum} (writable : d.isWritable = true) : read d.toJson = .ok d :=
  Except.mapError_eq_ok_iff.mpr (ofJson_toJson writable)

end Datum

theorem WireRow.read_toJson {row : WireRow} (writable : row.isWritable = true) :
    read row.toJson = .ok row :=
  Json.readMap_mapValues fun e member => Datum.read_toJson (List.all_eq_true.mp writable e member)

theorem WireRow.orNull_read_toJson {row : WireRow} (writable : row.isWritable = true) :
    ReadFault.orNull read row.toJson = .ok (some row) :=
  Json.orNull_of_read (fun null => by cases null) (read_toJson writable)

/-! ## Changes -/

namespace RowChange

theorem readField_old (c : RowChange) {row : WireRow} (writable : row.isWritable = true) :
    readField c "old" row.toJson = .ok { c with old := some row } :=
  Except.bind_eq_ok_iff.mpr ⟨some row, WireRow.orNull_read_toJson writable, rfl⟩

theorem readField_new (c : RowChange) {row : WireRow} (writable : row.isWritable = true) :
    readField c "new" row.toJson = .ok { c with new := some row } :=
  Except.bind_eq_ok_iff.mpr ⟨some row, WireRow.orNull_read_toJson writable, rfl⟩

theorem read_toJson {c : RowChange} (writable : c.isWritable = true) : read c.toJson = .ok c := by
  rw [isWritable, Bool.and_eq_true, Option.all_eq_true, Option.all_eq_true] at writable
  have ascending : ["new", "old"].Pairwise (fun a b => compare a b = .lt) := by decide
  rw [read, toJson]
  -- The row after the change is written first, since its name is the first of the two.
  refine Json.readRecord_ofMembers ascending (by decide) List.perm_append_comm ?_ ?_
  · rw [List.map_append]
    exact (Json.names_toList c.new).append (Json.names_toList c.old)
  · have new : Json.readParts readField (c.new.map fun row => ("new", row.toJson)).toList {} =
        .ok { new := c.new } :=
      Json.readParts_toList (fun absent => by rw [absent]) fun row found => by
        rw [readField_new _ (writable.2 row found), ← found]
    have old : Json.readParts readField (c.old.map fun row => ("old", row.toJson)).toList
        { new := c.new } = .ok c :=
      Json.readParts_toList (fun absent => by rw [← absent]) fun row found => by
        rw [readField_old _ (writable.1 row found), ← found]
    exact Json.readParts_append new old

end RowChange

theorem Changes.read_toJson {changes : Changes} (writable : changes.isWritable = true) :
    read changes.toJson = .ok changes := by
  refine Json.readMap_mapValues fun table listed => Json.readMap_mapValues fun e member => ?_
  exact RowChange.read_toJson
    (List.all_eq_true.mp (List.all_eq_true.mp writable table listed) e member)

/-! ## Outcomes -/

theorem Number.toNat?_ofUnsigned (n : UInt64) : (ofUnsigned n).toNat? = some n.toNat := by
  rw [ofUnsigned]
  split
  next => rfl
  next small =>
    have same : n.toInt64.toInt = n.toNat := by
      rw [← Int64.toInt_toBitVec, UInt64.toBitVec_toInt64, BitVec.toInt_eq_toNat_of_lt,
        UInt64.toNat_toBitVec]
      rw [UInt64.toNat_toBitVec]
      rw [Word.half] at small
      omega
    rw [toNat?, same, if_pos (Int.natCast_nonneg _), Int.toNat_natCast]

namespace Outcome

theorem readField_count (o : Outcome) (n : UInt64) :
    readField o "count" (.number (.ofUnsigned n)) = .ok { o with count := some n } := by
  have natural : Json.readNat (.number (.ofUnsigned n)) = .ok n.toNat := by
    rw [Json.readNat, Json.toNumber?, Option.bind_some, Number.toNat?_ofUnsigned]
    rfl
  refine Except.bind_eq_ok_iff.mpr ⟨some n, Json.orNull_of_read (fun null => by cases null) ?_, rfl⟩
  exact Except.bind_eq_ok_iff.mpr
    ⟨n.toNat, natural, congrArg Except.ok UInt64.ofNat_toNat⟩

theorem readField_error (o : Outcome) (text : String) :
    readField o "error" (.string text) = .ok { o with fault := some text } := rfl

theorem readField_details (o : Outcome) (text : String) :
    readField o "details" (.string text) = .ok { o with details := some text } := rfl

theorem readField_uuid (o : Outcome) {a : Atom} (writable : a.isWritable = true) :
    readField o "uuid" a.toJson = .ok { o with uuid := some a } :=
  Except.bind_eq_ok_iff.mpr
    ⟨some a, Json.orNull_of_read (Atom.toJson_ne_null writable) (Atom.read_toJson writable), rfl⟩

theorem readField_rows (o : Outcome) {rows : List WireRow}
    (writable : rows.all WireRow.isWritable = true) :
    readField o "rows" (.array (rows.map WireRow.toJson)) = .ok { o with rows := rows } :=
  Except.bind_eq_ok_iff.mpr ⟨rows, Json.readList_map fun row member =>
    WireRow.read_toJson (List.all_eq_true.mp writable row member), rfl⟩

/-- The parts of an outcome in the order of their names, in which they are written. -/
def sortedParts (o : Outcome) : List (String × Json) :=
  (o.count.map fun n => ("count", Json.number (.ofUnsigned n))).toList
  ++ (o.details.map fun d => ("details", Json.string d)).toList
  ++ (o.fault.map fun e => ("error", Json.string e)).toList
  ++ (if o.rows.isEmpty then [] else [("rows", .array (o.rows.map WireRow.toJson))])
  ++ (o.uuid.map fun a => ("uuid", a.toJson)).toList

theorem names_sortedParts (o : Outcome) :
    (o.sortedParts.map Prod.fst).Sublist ["count", "details", "error", "rows", "uuid"] := by
  simp only [sortedParts, List.map_append]
  exact ((((Json.names_toList o.count).append (Json.names_toList o.details)).append
    (Json.names_toList o.fault)).append (Json.names_unless o.rows)).append
      (Json.names_toList o.uuid)

theorem readParts_sortedParts {o : Outcome} (writable : o.isWritable = true) :
    Json.readParts readField o.sortedParts {} = .ok o := by
  rw [isWritable, Bool.and_eq_true, Option.all_eq_true] at writable
  have count : Json.readParts readField
      (o.count.map fun n => ("count", .number (.ofUnsigned n))).toList {} =
      .ok { count := o.count } :=
    Json.readParts_toList (fun absent => by rw [absent]) fun n found => by
      rw [readField_count, ← found]
  have details : Json.readParts readField (o.details.map fun d => ("details", .string d)).toList
      { count := o.count } = .ok { count := o.count, details := o.details } :=
    Json.readParts_toList (fun absent => by rw [absent]) fun d found => by
      rw [readField_details, ← found]
  have fault : Json.readParts readField (o.fault.map fun e => ("error", .string e)).toList
      { count := o.count, details := o.details } = .ok { o with uuid := none, rows := [] } :=
    Json.readParts_toList (fun absent => by rw [absent]) fun e found => by
      rw [readField_error, ← found]
  have rows : Json.readParts readField
      (if o.rows.isEmpty then [] else [("rows", .array (o.rows.map WireRow.toJson))])
      { o with uuid := none, rows := [] } = .ok { o with uuid := none } :=
    Json.readParts_unless (fun absent => by rw [absent]) (readField_rows _ writable.2)
  have uuid : Json.readParts readField (o.uuid.map fun a => ("uuid", a.toJson)).toList
      { o with uuid := none } = .ok o :=
    Json.readParts_toList (fun absent => by rw [← absent]) fun a found => by
      rw [readField_uuid _ (writable.1 a found), ← found]
  exact Json.readParts_append (Json.readParts_append (Json.readParts_append
    (Json.readParts_append count details) fault) rows) uuid

theorem read_toJson {o : Outcome} (writable : o.isWritable = true) : read o.toJson = .ok o := by
  have ascending : ["count", "details", "error", "rows", "uuid"].Pairwise
      (fun a b => compare a b = .lt) := by decide
  have sorted : ∀ a b c d e : List (String × Json),
      (a ++ b ++ c ++ d ++ e).Perm (a ++ c ++ b ++ e ++ d) := by
    intro a b c d e
    refine List.perm_iff_count.mpr fun part => ?_
    simp only [List.count_append]
    omega
  rw [read, toJson]
  exact Json.readRecord_ofMembers ascending (by decide) (sorted _ _ _ _ _) o.names_sortedParts
    (readParts_sortedParts writable)

end Outcome

/-! ## Requests -/

theorem MonitorSelect.read_toJson (s : MonitorSelect) : read s.toJson = .ok s := by
  have ascending : ["delete", "initial", "insert", "modify"].Pairwise
      (fun a b => compare a b = .lt) := by decide
  have sorted : ∀ a b c d : String × Json, [a, b, c, d].Perm [c, a, b, d] := fun a b c d =>
    (@List.perm_append_comm _ [a, b] [c]).append_right [d]
  have given : s.toJson.readRecord fields
      (fun (given : SortedMap String Bool) name value => given.insert name <$> value.readBool)
      .empty = .ok (.ofList [("delete", s.delete), ("initial", s.initial), ("insert", s.insert),
        ("modify", s.modify)]) :=
    Json.readRecord_ofMembers ascending (by decide) (sorted _ _ _ _) (List.Sublist.refl _) rfl
  refine Except.bind_eq_ok_iff.mpr ⟨_, given, ?_⟩
  simp only [SortedMap.get?_ofList]
  rfl

namespace MonitorRequest

theorem readField_columns (r : MonitorRequest) (columns : List String) :
    readField r "columns" (.array (columns.map .string)) = .ok { r with columns := columns } :=
  Except.bind_eq_ok_iff.mpr ⟨columns, Json.readList_map fun _ _ => rfl, rfl⟩

theorem readField_select (r : MonitorRequest) (select : MonitorSelect) :
    readField r "select" select.toJson = .ok { r with select := select } :=
  Except.bind_eq_ok_iff.mpr ⟨select, select.read_toJson, rfl⟩

theorem read_toJson (r : MonitorRequest) : read r.toJson = .ok r := by
  have ascending : ["columns", "select"].Pairwise (fun a b => compare a b = .lt) := by decide
  rw [read, toJson]
  refine Json.readRecord_ofMembers ascending (by decide) (List.Perm.refl _) ?_ ?_
  · rw [List.map_append]
    exact (Json.names_unless r.columns).append (List.Sublist.refl _)
  · have columns : Json.readParts readField
        (if r.columns.isEmpty then [] else [("columns", .array (r.columns.map .string))]) {} =
        .ok { columns := r.columns } :=
      Json.readParts_unless (fun absent => by rw [absent]) (readField_columns _ _)
    have select : Json.readParts readField [("select", r.select.toJson)] { columns := r.columns } =
        .ok r := Json.readParts_single (readField_select _ _)
    exact Json.readParts_append columns select

end MonitorRequest

/-! ## All messages -/

/-- Whatever is made of finite reals is read as what was written. -/
theorem messages_round_trip :
    (∀ a : Atom, a.isWritable = true →
        Atom.ofJson a.toJson = .ok a ∧ Atom.read a.toJson = .ok a)
      ∧ (∀ d : Datum, d.isWritable = true →
        Datum.ofJson d.toJson = .ok d ∧ Datum.read d.toJson = .ok d)
      ∧ (∀ row : WireRow, row.isWritable = true → WireRow.read row.toJson = .ok row)
      ∧ (∀ changes : Changes, changes.isWritable = true →
        Changes.read changes.toJson = .ok changes)
      ∧ (∀ o : Outcome, o.isWritable = true → Outcome.read o.toJson = .ok o)
      ∧ ∀ r : MonitorRequest, MonitorRequest.read r.toJson = .ok r :=
  ⟨fun _ writable => ⟨Atom.ofJson_toJson writable, Atom.read_toJson writable⟩,
    fun _ writable => ⟨Datum.ofJson_toJson writable, Datum.read_toJson writable⟩,
    fun _ => WireRow.read_toJson, fun _ => Changes.read_toJson, fun _ => Outcome.read_toJson,
    MonitorRequest.read_toJson⟩

namespace Sample

/-- A row with a datum of each kind. -/
def portRow : WireRow := .ofList [
  ("cost", .atom (.real ⟨0x3FF8000000000000⟩)),
  ("links", .set [.uuid "2f77b348-9768-4866-b761-89d5177ecda0", .namedUuid "set"]),
  ("tags", .map [(.string "map", .integer (-1)), (.string "set", .boolean true)])]

/-- A report on a row that appears, one that loses its columns, and one of which nothing is said. -/
def report : Changes := .ofList [("Port", .ofList [
  ("2f77b348-9768-4866-b761-89d5177ecda0", .insert portRow),
  ("2f77b348-9768-4866-b761-89d5177ecda1", .modify portRow .empty),
  ("2f77b348-9768-4866-b761-89d5177ecda2", {})])]

/-- An outcome with a count that does not fit into a signed word. -/
def largeOutcome : Outcome where
  count := some 0xFFFFFFFFFFFFFFFF
  details := some ""
  uuid := some (.uuid "2f77b348-9768-4866-b761-89d5177ecda0")
  rows := [.empty, portRow]

end Sample

theorem messages_round_trip_ports :
    Datum.ofJson (Datum.set []).toJson = .ok (.set [])
      ∧ WireRow.read Sample.portRow.toJson = .ok Sample.portRow
      ∧ Changes.read Sample.report.toJson = .ok Sample.report
      ∧ Outcome.read Sample.largeOutcome.toJson = .ok Sample.largeOutcome
      ∧ MonitorRequest.read (MonitorRequest.toJson { select := { delete := false } }) =
        .ok { select := { delete := false } } := by
  obtain ⟨-, data, rows, changes, outcomes, requests⟩ := messages_round_trip
  exact ⟨(data _ rfl).1, rows _ rfl, changes _ rfl, outcomes _ rfl, requests _⟩

end TableReplica
