import TableReplica.Proofs.Query.Agreement
import TableReplica.Proofs.Query.Operations

/-!
# Finding and listing by a record

A record can be looked up in the replica, and the records of its row can be listed. A record with an
identifier is looked up under that, without the others being seen, while a listing tests them all;
still the two agree, in whatever order the records are gone through: a record is found exactly if
one is listed, and it is one of those (`Replica.overwrite_agrees_with_list`).
-/

namespace TableReplica

/-! ## Comparing a record with all others -/

namespace Binding

/-- Whether a comparison fails does not depend on the record that is compared with. -/
theorem sameRow_decided_or (b : Binding) (a : Record) :
    (∃ test : Record → Bool, ∀ r, b.sameRow a r [] = .ok (test r))
      ∨ ∀ r, b.sameRow a r [] = .error (.noIndex b.table) := by
  by_cases identified : b.identity a = ""
  · simp only [sameRow_eq_of_unidentified identified]
    cases b.indexGroups.isEmpty with
    | true => exact .inr fun _ => rfl
    | false => exact .inl ⟨_, fun _ => rfl⟩
  · exact .inl ⟨_, sameRow_eq_of_identified identified⟩

end Binding

/-! ## Going through the records of a table -/

namespace Store

variable {b : Binding} {q : Record} {test : Record → Bool} {order order' : List Record}

theorem mem_of_search {r : Record} (found : search b q order = .ok r) : r ∈ order := by
  induction order with
  | nil => cases found
  | cons candidate rest ih =>
    rw [search] at found
    split at found
    next =>
      split at found
      next => cases found
      next =>
        cases found
        exact List.mem_cons_self
      next => exact List.mem_cons_of_mem _ (ih found)
    next => exact List.mem_cons_of_mem _ (ih found)

theorem search_of_decided (typed : ∀ r ∈ order, r.type = q.type)
    (decided : ∀ r, b.sameRow q r [] = .ok (test r)) :
    search b q order = match order.find? test with
      | some found => .ok found
      | none => .error .notFound := by
  induction order with
  | nil => rfl
  | cons r rest ih =>
    rw [List.forall_mem_cons] at typed
    rw [search, if_pos typed.1, decided r, List.find?_cons]
    cases test r with
    | true => rfl
    | false => exact ih typed.2

theorem search_of_undecided {fault : Fault} (typed : ∀ r ∈ order, r.type = q.type)
    (undecided : ∀ r, b.sameRow q r [] = .error fault) : search b q order =
      if order.isEmpty then .error .notFound else .error (.core fault) := by
  cases order with
  | nil => rfl
  | cons r rest =>
    rw [search, if_pos (typed r List.mem_cons_self), undecided r]
    rfl

/-- A test that fails for all records leaves a list as it is. -/
theorem fill_of_undecided {type : RecordType} {limit : Option Nat} {before : List Record}
    {accepts : Record → Except ReplicaFault Bool} {fault : ReplicaFault}
    (undecided : ∀ r, accepts r = .error fault) : fill type limit accepts before order =
      (before, if order.isEmpty ∨ isFull limit before then .ok () else .error fault) := by
  cases order with
  | nil => rfl
  | cons r rest =>
    rw [fill, undecided r]
    cases isFull limit before with
    | true => rfl
    | false => rfl

theorem collect_of_undecided {type : RecordType} {accepts : Record → Except ReplicaFault Bool}
    {fault : ReplicaFault} (undecided : ∀ r, accepts r = .error fault) :
    collect type none accepts [] order =
      if order.isEmpty then .ok [] else .error fault := by
  rw [collect, fill_of_undecided undecided]
  cases order with
  | nil => rfl
  | cons r rest => rfl

/-- What finding a record and listing the records of its row come to if they agree: the record that
is found is listed, none is found and none is listed, or both fail for the same other reason. -/
inductive Agrees : Except ReplicaFault Record → Except ReplicaFault (List Record) → Prop
  | found {r : Record} {listed : List Record} (among : r ∈ listed) : Agrees (.ok r) (.ok listed)
  | missing : Agrees (.error .notFound) (.ok [])
  | failed {fault : ReplicaFault} (other : fault ≠ .notFound) :
    Agrees (.error fault) (.error fault)

namespace Agrees

variable {found : Except ReplicaFault Record} {listed : Except ReplicaFault (List Record)}

theorem ok_iff (agrees : Agrees found listed) :
    (∃ r, found = .ok r) ↔ ∃ rs, listed = .ok rs ∧ rs ≠ [] := by
  cases agrees with
  | found among => exact iff_of_true ⟨_, rfl⟩ ⟨_, rfl, List.ne_nil_of_mem among⟩
  | missing => simp
  | failed => simp

theorem notFound_iff (agrees : Agrees found listed) :
    found = .error .notFound ↔ listed = .ok [] := by
  cases agrees with
  | found among => simp [List.ne_nil_of_mem among]
  | missing => simp
  | failed other => simp [other]

theorem mem_of_ok {r : Record} {rs : List Record} (agrees : Agrees (.ok r) (.ok rs)) : r ∈ rs := by
  cases agrees with
  | found among => exact among

end Agrees

/-- The search for a record agrees with a listing by it, whatever the order of either. -/
theorem agrees_of_perm (typed : ∀ r ∈ order, r.type = q.type) (perm : order.Perm order') :
    Agrees (search b q order)
      (collect q.type none (Selection.selects ⟨b, .reference q []⟩) [] order') := by
  have typed' : ∀ r ∈ order', r.type = q.type := fun r member => typed r (perm.mem_iff.mpr member)
  rcases b.sameRow_decided_or q with ⟨test, decided⟩ | undecided
  · have accepted : ∀ r ∈ order', Selection.selects ⟨b, .reference q []⟩ r = .ok (test r) :=
      fun r _ => (Selection.selects_eq_ok_iff rfl).mpr (decided r)
    rw [search_of_decided typed decided, collect_of_typed typed' accepted, List.nil_append, fitting]
    cases found : order.find? test with
    | none =>
      have passed : order'.filter test = [] := List.filter_eq_nil_iff.mpr fun r member =>
        List.find?_eq_none.mp found r (perm.mem_iff.mpr member)
      rw [passed]
      exact .missing
    | some r =>
      have member := perm.mem_iff.mp (List.mem_of_find?_eq_some found)
      exact .found (List.mem_filter.mpr ⟨member, List.find?_some found⟩)
  · have refused : ∀ r, Selection.selects ⟨b, .reference q []⟩ r =
        .error (.core (.noIndex b.table)) :=
      fun r => congrArg (Except.mapError ReplicaFault.core) (undecided r)
    rw [search_of_undecided typed undecided, collect_of_undecided refused, perm.isEmpty_eq]
    cases order'.isEmpty with
    | true => exact .missing
    | false => exact .failed (by simp)

theorem overwrite_of_ok {s : Store} {r : Record} (found : s.find q = .ok r) :
    s.overwrite q = (r, .ok ()) := by
  rw [overwrite, found]

theorem overwrite_of_error {s : Store} {fault : ReplicaFault} (failed : s.find q = .error fault) :
    s.overwrite q = (q, .error fault) := by
  rw [overwrite, failed]

theorem overwrite_eq_ok_iff {s : Store} :
    (s.overwrite q).2 = .ok () ↔ ∃ r, s.find q = .ok r := by
  rw [overwrite]
  cases s.find q <;> simp

theorem overwrite_eq_error_iff {s : Store} {fault : ReplicaFault} :
    (s.overwrite q).2 = .error fault ↔ s.find q = .error fault := by
  rw [overwrite]
  cases s.find q <;> simp

/-! ## The table of a record type -/

/-- A store keeps the records of a type in a table. -/
structure Keeps (s : Store) (type : RecordType) (table : String) (t : StoredTable) : Prop where
  registered : s.registry.tableFor? type = some table
  followed : s.table? table = some t
  named : t.binding.table = table
  sameType : t.binding.layout.type = type
  sound : t.Sound

namespace Keeps

variable {s : Store} {type : RecordType} {table : String} {t : StoredTable} {r : Record}

theorem type_of_mem (keeps : s.Keeps type table t) (member : r ∈ t.rows.values) :
    r.type = type := by
  obtain ⟨⟨id, _⟩, listed, rfl⟩ := List.mem_map.mp member
  exact (keeps.sound id _ (SortedMap.get?_eq_some_iff.mpr listed)).typed.trans keeps.sameType

/-- Records are stored under their own identifiers. -/
theorem get?_of_mem (keeps : s.Keeps type table t) (member : r ∈ t.rows.values) :
    t.rows.get? (t.binding.identity r) = some r := by
  obtain ⟨⟨id, _⟩, listed, rfl⟩ := List.mem_map.mp member
  have found := SortedMap.get?_eq_some_iff.mpr listed
  rw [(keeps.sound id _ found).identified, found]

theorem rowAs?_eq (keeps : s.Keeps type table t) (id : String) :
    s.rowAs? type table id = t.rows.get? id := by
  rw [rowAs?, row?, keeps.followed, Option.bind_some]
  cases found : t.rows.get? id with
  | none => rfl
  | some r => simp [Option.filter, (keeps.sound id r found).typed, keeps.sameType]

/-- Looking a record up under its identifier is searching for it, in whatever order. -/
theorem search_of_identified (keeps : s.Keeps q.type table t) (perm : order.Perm t.rows.values)
    (identified : t.binding.identity q ≠ "") :
    search t.binding q order = match t.rows.get? (t.binding.identity q) with
      | some found => .ok found
      | none => .error .notFound := by
  have typed : ∀ r ∈ order, r.type = q.type := fun r member =>
    keeps.type_of_mem (perm.mem_iff.mp member)
  rw [search_of_decided typed (Binding.sameRow_eq_of_identified identified)]
  suffices same : order.find? (fun r => t.binding.identity q == t.binding.identity r) =
      t.rows.get? (t.binding.identity q) by rw [same]
  cases found : order.find? fun r => t.binding.identity q == t.binding.identity r with
  | some r =>
    have passes := List.find?_some found
    rw [beq_iff_eq.mp passes]
    exact (keeps.get?_of_mem (perm.mem_iff.mp (List.mem_of_find?_eq_some found))).symm
  | none =>
    -- A stored record with the identifier would be among those that are searched.
    by_contra present
    obtain ⟨r, has⟩ := Option.ne_none_iff_exists'.mp (Ne.symm present)
    have listed : r ∈ t.rows.values :=
      List.mem_map.mpr ⟨_, SortedMap.get?_eq_some_iff.mp has, rfl⟩
    refine List.find?_eq_none.mp found r (perm.mem_iff.mpr listed) ?_
    rw [beq_iff_eq, (keeps.sound _ r has).identified]

/-- Finding a record is searching for it, also if it is looked up under its identifier. -/
theorem find_eq_search (keeps : s.Keeps q.type table t) :
    s.find q = search t.binding q t.rows.values := by
  have named : (liftM (s.tableFor q.type) : Except ReplicaFault String) = .ok table := by
    rw [tableFor_eq_ok_iff.mpr keeps.registered]
    rfl
  have bound : s.binding table = .ok t.binding := binding_eq_ok_iff.mpr ⟨t, keeps.followed, rfl⟩
  have found : s.find q = if t.binding.identity q = "" then search t.binding q t.rows.values
      else match s.rowAs? q.type table (t.binding.identity q) with
        | some found => .ok found
        | none => .error .notFound := by
    simp only [find, named, bound, keeps.followed, Except.ok_bind, ne_eq, ite_not]
    rfl
  rw [found]
  split
  next => rfl
  next identified => rw [keeps.rowAs?_eq, keeps.search_of_identified (.refl _) identified]

/-- What is found is stored under its own identifier. -/
theorem row?_of_search (keeps : s.Keeps type table t) (perm : order.Perm t.rows.values)
    (found : search t.binding q order = .ok r) :
    s.row? table (t.binding.identity r) = some r := by
  rw [row?, keeps.followed, Option.bind_some]
  exact keeps.get?_of_mem (perm.mem_iff.mp (mem_of_search found))

theorem ofRecord_eq (keeps : s.Keeps q.type table t) :
    Selection.ofRecord s q [] = .ok ⟨t.binding, .reference q []⟩ := by
  have bound : s.bindingFor q.type = .ok t.binding := bindingFor_eq_ok_iff.mpr
    ⟨table, keeps.registered, binding_eq_ok_iff.mpr ⟨t, keeps.followed, rfl⟩⟩
  rw [Selection.ofRecord, bound]
  rfl

/-- Finding a record agrees with listing the records that it selects. -/
theorem agrees (keeps : s.Keeps q.type table t) :
    Agrees (s.find q) (s.list q.type (some ⟨t.binding, .reference q []⟩) none []) := by
  have own : ∀ c ∈ some (Selection.mk t.binding (.reference q [])), c.table = table := by
    rintro c ⟨⟩
    exact keeps.named
  rw [keeps.find_eq_search, list_eq_collect keeps.registered keeps.followed own]
  exact agrees_of_perm (fun r => keeps.type_of_mem) (.refl _)

end Keeps

end Store

/-- Whatever has been reported to a replica, the records of a registered type are kept in the table
that it is registered for. -/
theorem Replica.exists_keeps {schema : Schema} {registry : Registry} {capacity : Nat}
    {start : Replica} (created : Replica.new schema registry capacity = .ok start)
    (reports : List Changes) {type : RecordType} {table : String}
    (registered : registry.tableFor? type = some table) :
    ∃ t, (start.populateAll reports).1.store.Keeps type table t := by
  have serves := serves created reports
  have sound := Replica.sound created reports
  obtain ⟨l, laid, sameType⟩ := Registry.exists_layout_of_tableFor? registered
  obtain ⟨t, followed, rfl⟩ := serves.exists_table (new_eq_ok_iff.mp created).1 laid
  rw [← serves.sameRegistry] at registered
  exact ⟨t, registered, followed, sound.named table t followed, sameType,
    sound.tables table t followed⟩

/-- Whatever has been reported to a replica, a record of a registered type is overwritten exactly if
the listing of the records that stand for its row is one of some records, and then with one of them,
the one that is stored under its own identifier; there is nothing to be found exactly if that
listing is empty; and whenever it is not overwritten it is left as it was. All this holds for every
order in which the records are gone through, and the look-up under an identifier finds what going
through all records would find. -/
theorem Replica.overwrite_agrees_with_list {schema : Schema} {registry : Registry} {capacity : Nat}
    {start : Replica} (created : Replica.new schema registry capacity = .ok start)
    (reports : List Changes) {q : Record} {table : String}
    (registered : registry.tableFor? q.type = some table) :
    let s := (start.populateAll reports).1.store
    ∃ c t, Selection.ofRecord s q [] = .ok c ∧ s.table? table = some t
      ∧ ((s.overwrite q).2 = .ok () ↔
        ∃ rs, s.list q.type (some c) none [] = .ok rs ∧ rs ≠ [])
      ∧ ((s.overwrite q).2 = .ok () → s.row? table (t.binding.identity (s.overwrite q).1) =
          some (s.overwrite q).1
        ∧ ∀ rs, s.list q.type (some c) none [] = .ok rs → (s.overwrite q).1 ∈ rs)
      ∧ ((s.overwrite q).2 = .error .notFound ↔ s.list q.type (some c) none [] = .ok [])
      ∧ (∀ fault, (s.overwrite q).2 = .error fault → (s.overwrite q).1 = q)
      ∧ s.find q = Store.search t.binding q t.rows.values
      ∧ ∀ order, order.Perm t.rows.values →
        (t.binding.identity q ≠ "" → Store.search t.binding q order = s.find q)
        ∧ (∀ r, Store.search t.binding q order = .ok r →
          s.row? table (t.binding.identity r) = some r)
        ∧ ∀ order', order'.Perm t.rows.values → Store.Agrees (Store.search t.binding q order)
          (Store.collect q.type none c.selects [] order') := by
  intro s
  obtain ⟨t, keeps⟩ : ∃ t, s.Keeps q.type table t := exists_keeps created reports registered
  have agrees := keeps.agrees
  refine ⟨_, t, keeps.ofRecord_eq, keeps.followed, Store.overwrite_eq_ok_iff.trans agrees.ok_iff,
    fun done => ?_, Store.overwrite_eq_error_iff.trans agrees.notFound_iff, fun fault failed => ?_,
    keeps.find_eq_search, fun order perm => ⟨fun identified => ?_, fun r => ?_, ?_⟩⟩
  · obtain ⟨r, found⟩ := Store.overwrite_eq_ok_iff.mp done
    rw [Store.overwrite_of_ok found]
    refine ⟨keeps.row?_of_search (.refl _) (keeps.find_eq_search ▸ found), fun rs listed => ?_⟩
    rw [found, listed] at agrees
    exact agrees.mem_of_ok
  · rw [Store.overwrite_of_error (Store.overwrite_eq_error_iff.mp failed)]
  · rw [keeps.find_eq_search, keeps.search_of_identified perm identified,
      keeps.search_of_identified (.refl _) identified]
  · exact keeps.row?_of_search perm
  · intro order' perm'
    have typed : ∀ r ∈ order, r.type = q.type := fun r member =>
      keeps.type_of_mem (perm.mem_iff.mp member)
    exact Store.agrees_of_perm typed (perm.trans perm'.symm)

/-- A bridge is found by its name among two, as the only one that is listed by it, and replaces all
of the record that it was looked up by. -/
theorem Replica.overwrite_agrees_with_list_bridges :
    let report : Changes := .ofList [("Bridge", .ofList [("1", .insert (Sample.row "br0")),
      ("2", .insert (Sample.row "br1"))])]
    ∃ start c, Replica.new Sample.schema Sample.registry 4 = .ok start
      ∧ let s := (start.populateAll [report]).1.store
        let q := Sample.record "" "br1" "system"
        Selection.ofRecord s q [] = .ok c
          ∧ s.list q.type (some c) none [] = .ok [Sample.record "2" "br1" ""]
          ∧ s.overwrite q = (Sample.record "2" "br1" "", .ok ()) := by
  intro report
  obtain ⟨start, c, created, made, listed⟩ :
      ∃ start c, Replica.new Sample.schema Sample.registry 4 = .ok start
        ∧ Selection.ofRecord (start.populateAll [report]).1.store
          (Sample.record "" "br1" "system") [] = .ok c
        ∧ (start.populateAll [report]).1.store.list Sample.bridge.type (some c) none [] =
          .ok [Sample.record "2" "br1" ""] := ⟨_, _, rfl, rfl, rfl⟩
  obtain ⟨c', t, made', -, done_iff, found, -⟩ :=
    overwrite_agrees_with_list (q := Sample.record "" "br1" "system") created [report] rfl
  cases made.symm.trans made'
  have done := done_iff.mpr ⟨_, listed, List.cons_ne_nil _ _⟩
  have among := (found done).2 _ listed
  exact ⟨start, c, created, made, listed, Prod.ext (List.mem_singleton.mp among) done⟩

end TableReplica
