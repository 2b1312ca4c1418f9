import Mathlib.Data.List.Nodup
import TableReplica.Proofs.Query.Agreement
import TableReplica.Proofs.Query.Operations
import TableReplica.Proofs.Replica.LateReply

/-!
# Selections by a predicate

A selection by a predicate is listed in one pass over the table and written down as clauses in
another. Both find the same rows: those whose record passes the test, each once, and the clauses
name each of them by its identifier alone (`Selection.predicate_lists_and_addresses`). This needs
that no row has the empty text as its identifier, since a record without an identifier is looked for
by an index.
-/

namespace TableReplica

theorem Atom.reference_injective : Function.Injective Atom.reference := by
  intro id other same
  have read := Binding.decodeIdentity_reference id
  rw [same, Binding.decodeIdentity_reference] at read
  exact (Except.ok.inj read).symm

namespace Binding

theorem identityClause_injective (column : String) :
    Function.Injective (identityClause column) := by
  intro id other same
  have sameDatum := congrArg Clause.datum same
  exact Atom.reference_injective (Datum.atom.inj sameDatum)

end Binding

namespace StoredTable

variable {t : StoredTable} {test : Record → Bool}

/-- The identifiers of the rows whose record passes a test. -/
def idsOf (t : StoredTable) (test : Record → Bool) : List String :=
  (t.rows.toList.filter fun e => test e.2).map Prod.fst

/-- The records that pass a test. -/
def recordsOf (t : StoredTable) (test : Record → Bool) : List Record :=
  t.rows.values.filter test

theorem recordsOf_eq_map (t : StoredTable) (test : Record → Bool) :
    t.recordsOf test = (t.rows.toList.filter fun e => test e.2).map Prod.snd :=
  List.filter_map

theorem idsOf_nodup (t : StoredTable) (test : Record → Bool) : (t.idsOf test).Nodup :=
  t.rows.keys_nodup.sublist (List.filter_sublist.map Prod.fst)

theorem mem_idsOf_iff {id : String} :
    id ∈ t.idsOf test ↔ ∃ r, t.rows.get? id = some r ∧ test r = true := by
  simp only [idsOf, List.mem_map, List.mem_filter, SortedMap.get?_eq_some_iff]
  constructor
  · rintro ⟨⟨id, r⟩, ⟨listed, passes⟩, rfl⟩
    exact ⟨r, listed, passes⟩
  · rintro ⟨r, listed, passes⟩
    exact ⟨(id, r), ⟨listed, passes⟩, rfl⟩

/-- The records that pass a test stand for the rows with these identifiers, in the same order. -/
theorem forall₂_idsOf_recordsOf (t : StoredTable) (test : Record → Bool) :
    List.Forall₂ (fun id r => t.rows.get? id = some r) (t.idsOf test) (t.recordsOf test) := by
  rw [recordsOf_eq_map, idsOf, List.forall₂_map_left_iff, List.forall₂_map_right_iff,
    List.forall₂_same]
  intro e member
  exact SortedMap.get?_eq_some_iff.mpr (List.mem_of_mem_filter member)

end StoredTable

/-- There is no record for a row of which no report has said anything. -/
theorem Replica.row?_of_silent {schema : Schema} {registry : Registry} {capacity : Nat}
    {start : Replica} (created : Replica.new schema registry capacity = .ok start)
    {reports : List Changes} {table id : String} (silent : Changes.Silent table id reports) :
    (start.populateAll reports).1.store.row? table id = none := by
  by_cases bound : ∃ b, (start.populateAll reports).1.store.binding table = .ok b
  · obtain ⟨b, bound⟩ := bound
    have bound' := ((serves created []).bindings table b).mpr
      (((serves created reports).bindings table b).mp bound)
    change start.store.binding table = .ok b at bound'
    rw [store_populateAll, Store.row?_applyAll bound', Binding.followAll_of_silent silent,
      Store.row?_new (new_eq_ok_iff.mp created).1]
  · exact Store.row?_of_unbound (fun b bound' => bound ⟨b, bound'⟩) id

namespace Selection

variable {schema : Schema} {registry : Registry} {s : Store} {type : RecordType} {t : StoredTable}
  {test : Record → Bool} {c : Selection}

/-- A predicate decides for all records of its type. -/
theorem selects_of_predicate (predicate : c.rule = .predicate type test) {r : Record}
    (typed : r.type = type) : c.selects r = .ok (test r) := by
  rw [selects, predicate]
  exact if_pos typed

/-- The clauses of a predicate name the rows whose record passes the test by their identifiers. -/
theorem clauses_of_predicate (predicate : c.rule = .predicate type test)
    (followed : s.table? c.table = some t) (bound : t.binding = c.binding)
    (ofType : c.binding.layout.type = type) (sound : t.Sound) (named : t.rows.get? "" = none) :
    c.clauses s =
      .ok ((t.idsOf test).map fun id => [Binding.identityClause Identifier.idColumn id]) := by
  have represents : ∀ e ∈ t.rows.toList, c.binding.Represents e.1 e.2 := fun e listed =>
    bound ▸ sound e.1 e.2 (SortedMap.get?_eq_some_iff.mpr listed)
  have selected : c.filter t.rows.values = .ok (t.recordsOf test) := by
    refine Except.filterM_eq_ok fun r member => ?_
    obtain ⟨e, listed, rfl⟩ := List.mem_map.mp member
    exact selects_of_predicate predicate ((represents e listed).typed.trans ofType)
  have written : (t.recordsOf test).mapM
      (fun r => (c.binding.clauses r []).mapError ReplicaFault.core) =
      .ok ((t.recordsOf test).map fun r =>
        [Binding.identityClause Identifier.idColumn (c.binding.identity r)]) := by
    refine Except.mapM_eq_ok_map fun r member => Except.mapError_eq_ok_iff.mpr ?_
    obtain ⟨e, listed, rfl⟩ := List.mem_map.mp (List.mem_of_mem_filter member)
    refine Binding.clauses_of_identified fun unnamed => ?_
    rw [(represents e listed).identified] at unnamed
    have found := SortedMap.get?_eq_some_iff.mpr listed
    rw [unnamed, named] at found
    cases found
  have sameClauses : ((t.recordsOf test).map fun r =>
        [Binding.identityClause Identifier.idColumn (c.binding.identity r)]) =
      (t.idsOf test).map fun id => [Binding.identityClause Identifier.idColumn id] := by
    rw [StoredTable.recordsOf_eq_map, StoredTable.idsOf, List.map_map, List.map_map]
    refine List.map_congr_left fun e member => ?_
    have identified := (represents e (List.mem_of_mem_filter member)).identified
    rw [Function.comp_apply, Function.comp_apply, identified]
  rw [clauses, predicate]
  simp only [followed, selected, Except.ok_bind]
  exact written.trans (congrArg Except.ok sameClauses)

/-- What a predicate lists is the records that pass the test. -/
theorem list_of_predicate (predicate : c.rule = .predicate type test)
    (registered : s.registry.tableFor? type = some c.table) (followed : s.table? c.table = some t)
    (ofType : t.binding.layout.type = type) (sound : t.Sound) :
    s.list type (some c) none [] = .ok (t.recordsOf test) := by
  have typed : ∀ r ∈ t.rows.values, r.type = type := by
    intro r member
    obtain ⟨e, listed, rfl⟩ := List.mem_map.mp member
    exact (sound e.1 e.2 (SortedMap.get?_eq_some_iff.mpr listed)).typed.trans ofType
  have apt : ∀ c' ∈ some c, c'.table = c.table := by
    rintro _ ⟨⟩
    rfl
  have decided : ∀ r ∈ t.rows.values, Store.asksFor (some c) r = .ok (test r) :=
    fun r member => selects_of_predicate predicate (typed r member)
  rw [Store.list_eq_collect registered followed apt, Store.collect_of_typed typed decided]
  rfl

/-- Whatever has been reported to a replica and whenever a selection by a predicate has been made,
listing the selected records of the type into nothing gives the record of each row that passes the
test once, and nothing else. As long as no row of the table has the empty text as its identifier,
the clauses of the selection are one for each of these rows, that for its identifier, all of them
different, and the operations that delete, update or mutate the selected rows are one for each of
the clauses. -/
theorem predicate_lists_and_addresses {capacity : Nat} {start : Replica}
    (created : Replica.new schema registry capacity = .ok start) (earlier reports : List Changes)
    {table : String} (registered : registry.tableFor? type = some table) (test : Record → Bool)
    (named : (start.populateAll reports).1.store.row? table "" = none) :
    let s := (start.populateAll reports).1.store
    ∃ c ids records, ofPredicate (start.populateAll earlier).1.store type test = .ok c
      ∧ ids.Nodup ∧ (∀ id, id ∈ ids ↔ ∃ r, s.row? table id = some r ∧ test r = true)
      ∧ List.Forall₂ (fun id r => s.row? table id = some r) ids records
      ∧ s.list type (some c) none [] = .ok records
      ∧ let clauses := ids.map fun id => [Binding.identityClause Identifier.idColumn id]
        c.clauses s = .ok clauses ∧ clauses.Nodup
          ∧ c.delete s = .ok (clauses.map fun clauses => { kind := .delete, table, clauses })
          ∧ (∀ r names ops, c.update s r names = .ok ops → ∃ row,
            ops = clauses.map fun clauses => { kind := .update, table, row, clauses })
          ∧ ∀ type' changes ops, c.mutate s type' changes = .ok ops → ∃ mutations,
            ops = clauses.map fun clauses => { kind := .mutate, table, mutations, clauses } := by
  intro s
  have serves : s.Serves schema registry := Replica.serves created reports
  have sound : s.Sound := Replica.sound created reports
  have before := Replica.serves created earlier
  obtain ⟨l, laid, rfl⟩ := Registry.exists_layout_of_tableFor? registered
  obtain ⟨t, followed, rfl⟩ := serves.exists_table (Replica.new_eq_ok_iff.mp created).1 laid
  have bound := (serves.bindings table t.binding).mp
    (Store.binding_eq_ok_iff.mpr ⟨t, followed, rfl⟩)
  have soundTable := sound.tables table t followed
  obtain rfl : t.binding.table = table := sound.named table t followed
  let c : Selection := ⟨t.binding, .predicate t.binding.layout.type test⟩
  have made : ofPredicate (start.populateAll earlier).1.store t.binding.layout.type test = .ok c := by
    refine ofPredicate_eq_ok_iff.mpr ⟨Store.bindingFor_eq_ok_iff.mpr ⟨c.table, ?_, ?_⟩, rfl⟩
    · rw [before.sameRegistry]
      exact registered
    · exact (before.bindings c.table t.binding).mpr bound
  have rows : ∀ id, s.row? c.table id = t.rows.get? id := by
    intro id
    exact congrArg (Option.bind · fun t => t.rows.get? id) followed
  have listed := list_of_predicate (c := c) rfl (serves.sameRegistry ▸ registered) followed rfl
    soundTable
  have written := clauses_of_predicate (c := c) rfl followed rfl rfl soundTable
    ((rows "").symm.trans named)
  refine ⟨c, t.idsOf test, t.recordsOf test, made, t.idsOf_nodup test, fun id => ?_, ?_, listed,
    written, ?_, operations_of_clauses written _, ?_, ?_⟩
  · exact (rows id).symm ▸ StoredTable.mem_idsOf_iff
  · exact (t.forall₂_idsOf_recordsOf test).imp fun id r found => (rows id).trans found
  · refine List.Nodup.map (fun id other same => ?_) (t.idsOf_nodup test)
    exact Binding.identityClause_injective Identifier.idColumn (List.cons.inj same).1
  · intro r names ops edited
    obtain ⟨-, -, row, -, -, edited⟩ := update_eq_ok edited
    exact ⟨row, Except.ok.inj (edited.symm.trans (operations_of_clauses written _))⟩
  · intro type' changes ops edited
    obtain ⟨-, -, mutations, -, -, edited⟩ := mutate_eq_ok edited
    exact ⟨mutations, Except.ok.inj (edited.symm.trans (operations_of_clauses written _))⟩

end Selection

/-! ## An example -/

namespace Sample

/-- The report on three bridges, two of which bear the same name. -/
def threeBridges : Changes := .ofList [("Bridge", .ofList [
  ("1", .insert (row "br0")), ("2", .insert (row "br1")), ("3", .insert (row "br0"))])]

/-- Whether a record is that of a bridge with a name. -/
def isNamed (name : String) (r : Record) : Bool := r.get? 1 == some (.scalar (.string name))

end Sample

/-- Both bridges of one name are listed and deleted, the third one is not. -/
theorem Selection.predicate_lists_and_addresses_bridges :
    ∃ start c, ∃ ids : List String, Replica.new Sample.schema Sample.registry 4 = .ok start
      ∧ ofPredicate start.store Sample.bridge.type (Sample.isNamed "br0") = .ok c
      ∧ ids.Nodup ∧ "1" ∈ ids ∧ "2" ∉ ids ∧ "3" ∈ ids
      ∧ let s := (start.populateAll [Sample.threeBridges]).1.store
        s.list Sample.bridge.type (some c) none [] =
            .ok [Sample.record "1" "br0" "", Sample.record "3" "br0" ""]
          ∧ c.delete s = .ok ((ids.map fun id => [Binding.identityClause "_uuid" id]).map
            fun clauses => { kind := .delete, table := "Bridge", clauses }) := by
  obtain ⟨start, created⟩ := Sample.exists_replica
  have silent : Changes.Silent "Bridge" "" [Sample.threeBridges] := by
    intro changes member
    rw [List.mem_singleton.mp member]
    rfl
  have registered : Sample.registry.tableFor? Sample.bridge.type = some "Bridge" := rfl
  obtain ⟨c, ids, records, made, distinct, mem, -, listed, -, -, deleted, -⟩ :=
    predicate_lists_and_addresses created [] [Sample.threeBridges] registered
      (Sample.isNamed "br0") (Replica.row?_of_silent created silent)
  cases created
  cases made
  cases listed
  refine ⟨_, _, ids, rfl, rfl, distinct, (mem "1").mpr ⟨_, rfl, rfl⟩, fun member => ?_,
    (mem "3").mpr ⟨_, rfl, rfl⟩, rfl, deleted⟩
  obtain ⟨r, found, passes⟩ := (mem "2").mp member
  cases found
  cases passes

end TableReplica
