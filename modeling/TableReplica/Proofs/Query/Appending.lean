import TableReplica.Proofs.Query.Addressing
import TableReplica.Proofs.Query.Bounds
import TableReplica.Proofs.Query.Finding

/-!
# Listing into a list

A caller's list gains the records that are asked for, as many as its capacity has room for, each
from a row of its own. The records are gone through in no particular order, and the test can fail in
the middle of it; but if it fails for one record, it fails for all of them, so nothing has been
appended by then (`Replica.append_fits`).

Those who give up the list if something goes wrong get what is listed otherwise
(`Store.list_eq_append`).
-/

namespace TableReplica

/-! ## Selections that decide -/

namespace Selection

variable {schema : Schema} {registry : Registry} {s : Store} {c : Selection} {q r : Record}
  {names : List String}

/-- Whether nothing says which rows a selection by a record is about: neither a field that is given
by name, nor the identifier, nor an index. -/
inductive Undecided (c : Selection) : Prop
  | reference {q : Record} (reference : c.rule = .reference q [])
    (unidentified : c.binding.identity q = "") (unindexed : c.binding.indexGroups = [])

theorem selects_of_undecided (undecided : c.Undecided) (r : Record) :
    c.selects r = .error (.core (.noIndex c.table)) := by
  obtain ⟨reference, unidentified, unindexed⟩ := undecided
  rw [selects, reference]
  dsimp only
  rw [Binding.sameRow_eq_of_unidentified unidentified, unindexed]
  rfl

theorem exists_positionsOf_of_ofRecord (made : ofRecord s q names = .ok c) :
    ∃ positions, c.binding.positionsOf names = .ok positions := by
  obtain ⟨b, -, made⟩ := Except.bind_eq_ok_iff.mp made
  split at made
  next => cases made
  next known =>
    cases made
    refine Except.exists_mapM fun name member => ?_
    have named := List.find?_eq_none.mp known name member
    rw [Option.isNone_iff_eq_none] at named
    obtain ⟨position, found⟩ := Option.ne_none_iff_exists'.mp named
    exact ⟨position, by rw [found]⟩

/-- Every other selection decides for all records of its table. -/
theorem MadeOf.undecided_or (made : c.MadeOf s) (serves : s.Serves schema registry) :
    c.Undecided ∨ ∃ test : Record → Bool, ∀ r, r.type = c.binding.layout.type →
      c.selects r = .ok (test r) := by
  cases made with
  | predicate type test made =>
    obtain ⟨bound, predicate⟩ := ofPredicate_eq_ok_iff.mp made
    refine .inr ⟨test, fun r typed => ?_⟩
    rw [selects, predicate]
    exact if_pos (typed.trans (serves.type_of_bindingFor bound).symm)
  | record q names made =>
    have reference := (ofRecord_eq_ok made).2
    simp only [selects_eq_ok_iff reference]
    by_cases given : names = []
    · subst given
      by_cases unidentified : c.binding.identity q = ""
      · by_cases unindexed : c.binding.indexGroups = []
        · exact .inl ⟨reference, unidentified, unindexed⟩
        · refine .inr ⟨fun r => c.binding.indexGroups.any fun group =>
            Binding.agreeAt q r (group.map Prod.fst), fun r _ => ?_⟩
          rw [Binding.sameRow_eq_of_unidentified unidentified, if_neg (by simpa using unindexed)]
      · exact .inr ⟨_, fun r _ => Binding.sameRow_eq_of_identified unidentified r⟩
    · obtain ⟨positions, known⟩ := exists_positionsOf_of_ofRecord made
      refine .inr ⟨fun r => Binding.agreeAt q r positions, fun r _ => ?_⟩
      rw [Binding.sameRow, if_pos (by simpa using given), known]
      rfl

end Selection

/-! ## Listing in any order -/

namespace Store

variable {s : Store} {type : RecordType} {before after order : List Record} {test : Record → Bool}
  {fault : ReplicaFault}

theorem append_of_selection (s : Store) (type : RecordType) (selection : Option Selection)
    (capacity : Nat) (before : List Record) :
    s.append type (selection.map .ok) capacity before =
      s.appendUpTo type selection (limitOf capacity) before := by
  cases selection <;> rfl

/-- Listing all or nothing is listing into a list that is lost if that fails. -/
theorem list_eq_append (s : Store) (type : RecordType) (selection : Option Selection)
    (capacity : Nat) (before : List Record) :
    s.list type selection (limitOf capacity) before =
      allOrNothing (s.append type (selection.map .ok) capacity before) := by
  rw [list, append_of_selection]

/-- What listing can come to: the records of a table may be gone through in any order. -/
inductive Appends (s : Store) (type : RecordType) (held? : Option Selection.Held) (capacity : Nat)
    (before : List Record) : List Record × Except ReplicaFault Unit → Prop
  | unusable {fault : ReplicaFault} (failed : held?.mapM Selection.Held.use = .error fault) :
    Appends s type held? capacity before (before, .error fault)
  | unlisted {selection : Option Selection} {fault : ReplicaFault}
    (used : held?.mapM Selection.Held.use = .ok selection)
    (failed : s.listedTable type selection = .error fault) :
    Appends s type held? capacity before (before, .error fault)
  | filled {selection : Option Selection} {t : StoredTable} {order : List Record}
    (used : held?.mapM Selection.Held.use = .ok selection)
    (listed : s.listedTable type selection = .ok t) (perm : order.Perm t.rows.values) :
    Appends s type held? capacity before
      (fill type (limitOf capacity) (asksFor selection) before order)

theorem appends_append (s : Store) (type : RecordType) (held? : Option Selection.Held)
    (capacity : Nat) (before : List Record) :
    s.Appends type held? capacity before (s.append type held? capacity before) := by
  rw [append]
  split
  next failed => exact .unusable failed
  next used =>
    rw [appendUpTo]
    split
    next failed => exact .unlisted used failed
    next listed => exact .filled used listed (.refl _)

/-! ## What a list gains -/

variable {t : StoredTable} {selection : Option Selection} {capacity : Nat}

/-- The records of a table that are asked for. -/
def askedFor (t : StoredTable) (selection : Option Selection) : List Record :=
  t.recordsOf fun r => asksFor selection r matches .ok true

/-- Whether a list is another one behind which some records have been put that are asked for, each
from a row of its own: all there are, or as many as there is room for. -/
structure Gains (t : StoredTable) (selection : Option Selection) (capacity : Nat)
    (before after : List Record) (ids : List String) (records : List Record) : Prop where
  appended : after = before ++ records
  distinct : ids.Nodup
  stored : List.Forall₂ (fun id r => t.rows.get? id = some r ∧ asksFor selection r = .ok true)
    ids records
  number : records.length = if capacity = 0 then (askedFor t selection).length
    else min (askedFor t selection).length (capacity - before.length)

theorem Gains.length_le {ids : List String} {records : List Record}
    (gains : Gains t selection capacity before after ids records) (limited : capacity ≠ 0) :
    after.length ≤ max before.length capacity := by
  have number := gains.number
  rw [if_neg limited] at number
  rw [gains.appended, List.length_append]
  omega

theorem length_fitting_limitOf (capacity : Nat) (before more : List Record) :
    (fitting (limitOf capacity) before more).length =
      if capacity = 0 then more.length else min more.length (capacity - before.length) := by
  by_cases unlimited : capacity = 0
  · rw [limitOf, if_pos unlimited, if_pos unlimited, fitting]
  · rw [limitOf, if_neg unlimited, if_neg unlimited, fitting, List.length_take, Nat.min_comm]

theorem fitting_sublist (limit : Option Nat) (before more : List Record) :
    (fitting limit before more).Sublist more := by
  cases limit with
  | none => exact .refl more
  | some n => exact List.take_sublist _ more

theorem askedFor_of_decided
    (decided : ∀ r ∈ t.rows.values, asksFor selection r = .ok (test r)) :
    askedFor t selection = t.recordsOf test := by
  refine List.filter_congr fun r member => ?_
  rw [decided r member]
  cases test r <;> rfl

namespace Keeps

variable {table : String}

/-- The records of a table have different identifiers. -/
theorem identities_nodup (keeps : s.Keeps type table t) (perm : order.Perm t.rows.values) :
    (order.map t.binding.identity).Nodup := by
  have identities : t.rows.values.map t.binding.identity = t.rows.keys := by
    rw [SortedMap.values, SortedMap.keys, List.map_map]
    exact List.map_congr_left fun e listed =>
      (keeps.sound e.1 e.2 (SortedMap.get?_eq_some_iff.mpr listed)).identified
  rw [(perm.map t.binding.identity).nodup_iff, identities]
  exact t.rows.keys_nodup

/-- If the test decides, a list gains what there is room for. -/
theorem gains_of_decided (keeps : s.Keeps type table t) (perm : order.Perm t.rows.values)
    (decided : ∀ r ∈ t.rows.values, asksFor selection r = .ok (test r)) :
    ∃ after ids records,
      fill type (limitOf capacity) (asksFor selection) before order = (after, .ok ())
        ∧ Gains t selection capacity before after ids records := by
  have typed : ∀ r ∈ order, r.type = type := fun r member =>
    keeps.type_of_mem (perm.mem_iff.mp member)
  have decided' : ∀ r ∈ order, asksFor selection r = .ok (test r) := fun r member =>
    decided r (perm.mem_iff.mp member)
  have sublist := fitting_sublist (limitOf capacity) before (order.filter test)
  refine ⟨_, (fitting (limitOf capacity) before (order.filter test)).map t.binding.identity, _,
    fill_of_typed typed decided', rfl, ?_, ?_, ?_⟩
  · exact (keeps.identities_nodup perm).sublist ((sublist.trans List.filter_sublist).map _)
  · rw [List.forall₂_map_left_iff, List.forall₂_same]
    intro r member
    obtain ⟨listed, passes⟩ := List.mem_filter.mp (sublist.mem member)
    have stored := perm.mem_iff.mp listed
    exact ⟨keeps.get?_of_mem stored, by rw [decided r stored, passes]⟩
  · rw [length_fitting_limitOf, askedFor_of_decided decided, (perm.filter test).length_eq,
      StoredTable.recordsOf]

end Keeps

theorem isEmpty_of_perm (perm : order.Perm t.rows.values) : order.isEmpty = t.rows.isEmpty := by
  rw [perm.isEmpty_eq, SortedMap.values, List.isEmpty_map]
  rfl

theorem asksFor_of_undecided {c : Selection} (undecided : c.Undecided) (r : Record) :
    asksFor (some c) r = .error (.core (.noIndex c.table)) :=
  c.selects_of_undecided undecided r

/-- If the test does not decide, nothing is asked for. -/
theorem gains_nil {c : Selection} (undecided : c.Undecided) (t : StoredTable) (capacity : Nat)
    (before : List Record) : Gains t (some c) capacity before before [] [] := by
  have nothing : askedFor t (some c) = [] := List.filter_eq_nil_iff.mpr fun r _ => by
    rw [asksFor_of_undecided undecided r]
    exact Bool.false_ne_true
  refine ⟨(List.append_nil before).symm, List.nodup_nil, .nil, ?_⟩
  rw [nothing, List.length_nil, Nat.zero_min, ite_self]

/-! ## When nothing can be listed -/

/-- Why nothing can be listed. -/
inductive RefusesListing (registry : Registry) (s : Store) (type : RecordType)
    (held? : Option Selection.Held) (capacity : Nat) (before : List Record) : ReplicaFault → Prop
  | condition {cause : ReplicaFault} (failed : held? = some (.error cause)) :
    RefusesListing registry s type held? capacity before (.condition cause)
  | notRegistered {selection : Option Selection} (held : held? = selection.map .ok)
    (unregistered : registry.tableFor? type = none) :
    RefusesListing registry s type held? capacity before (.input (.notRegistered type.name))
  | otherTable {c : Selection} {table : String} (held : held? = some (.ok c))
    (registered : registry.tableFor? type = some table) (other : c.table ≠ table) :
    RefusesListing registry s type held? capacity before (.input (.otherResult c.table table))
  | undecided {c : Selection} {t : StoredTable} (held : held? = some (.ok c))
    (registered : registry.tableFor? type = some c.table) (followed : s.table? c.table = some t)
    (undecided : c.Undecided) (nonempty : t.rows.isEmpty = false)
    (room : isFull (limitOf capacity) before = false) :
    RefusesListing registry s type held? capacity before (.core (.noIndex c.table))

/-- Whether the records of a type are listed from a table: those of a selection that decides which
ones are asked for, unless none is looked at. -/
structure ListsFrom (s : Store) (type : RecordType) (held? : Option Selection.Held)
    (capacity : Nat) (before : List Record) (table : String) (t : StoredTable)
    (selection : Option Selection) : Prop where
  held : held? = selection.map .ok
  keeps : s.Keeps type table t
  own : ∀ c ∈ selection, c.table = table
  needed : ∀ c ∈ selection, c.Undecided →
    t.rows.isEmpty = true ∨ isFull (limitOf capacity) before = true

theorem listedTable_of_keeps {table : String} (keeps : s.Keeps type table t)
    (own : ∀ c ∈ selection, c.table = table) : s.listedTable type selection = .ok t :=
  listedTable_of_registered keeps.registered keeps.followed own

theorem listedTable_of_other {c : Selection} {table : String}
    (registered : s.registry.tableFor? type = some table) (other : c.table ≠ table) :
    s.listedTable type (some c) = .error (.input (.otherResult c.table table)) := by
  rw [listedTable, tableFor_eq_ok_iff.mpr registered]
  dsimp only
  rw [Option.filter_some_pos (by simpa using other)]

theorem listedTable_of_unregistered (unregistered : s.registry.tableFor? type = none)
    (selection : Option Selection) :
    s.listedTable type selection = .error (.input (.notRegistered type.name)) := by
  rw [listedTable, tableFor, unregistered]

theorem mapM_use_map_ok (selection : Option Selection) :
    (selection.map Except.ok).mapM Selection.Held.use = .ok selection := by
  cases selection <;> rfl

variable {held? : Option Selection.Held} {result : List Record × Except ReplicaFault Unit}

namespace Appends

theorem eq_of_unlisted (appends : s.Appends type (selection.map .ok) capacity before result)
    (failed : s.listedTable type selection = .error fault) : result = (before, .error fault) := by
  cases appends with
  | unusable unusable => cases (mapM_use_map_ok selection).symm.trans unusable
  | unlisted used failed' =>
    cases (mapM_use_map_ok selection).symm.trans used
    cases failed.symm.trans failed'
    rfl
  | filled used listed perm =>
    cases (mapM_use_map_ok selection).symm.trans used
    cases failed.symm.trans listed

theorem exists_order (appends : s.Appends type (selection.map .ok) capacity before result)
    (listed : s.listedTable type selection = .ok t) : ∃ order : List Record,
      order.Perm t.rows.values
        ∧ result = fill type (limitOf capacity) (asksFor selection) before order := by
  cases appends with
  | unusable unusable => cases (mapM_use_map_ok selection).symm.trans unusable
  | unlisted used failed =>
    cases (mapM_use_map_ok selection).symm.trans used
    cases listed.symm.trans failed
  | filled used listed' perm =>
    cases (mapM_use_map_ok selection).symm.trans used
    cases listed.symm.trans listed'
    exact ⟨_, perm, rfl⟩

end Appends

/-- What is refused leaves the list as it is. -/
theorem RefusesListing.eq (refuses : RefusesListing s.registry s type held? capacity before fault)
    (kept : ∀ table, s.registry.tableFor? type = some table → ∃ t, s.Keeps type table t)
    (appends : s.Appends type held? capacity before result) : result = (before, .error fault) := by
  cases refuses with
  | @condition cause failed =>
    subst failed
    have unusable : (some (.error cause)).mapM Selection.Held.use = .error (.condition cause) := rfl
    cases appends with
    | unusable failed =>
      cases unusable.symm.trans failed
      rfl
    | unlisted used | filled used => cases unusable.symm.trans used
  | notRegistered held unregistered =>
    subst held
    exact appends.eq_of_unlisted (listedTable_of_unregistered unregistered _)
  | @otherTable c table held registered other =>
    subst held
    have appends : s.Appends type ((some c).map .ok) capacity before result := appends
    exact appends.eq_of_unlisted (listedTable_of_other registered other)
  | @undecided c t held registered followed undecided nonempty room =>
    subst held
    have appends : s.Appends type ((some c).map .ok) capacity before result := appends
    obtain ⟨t', keeps⟩ := kept _ registered
    cases followed.symm.trans keeps.followed
    obtain ⟨order, perm, rfl⟩ := appends.exists_order (listedTable_of_keeps keeps (by simp))
    rw [fill_of_undecided (asksFor_of_undecided undecided), isEmpty_of_perm perm, nonempty, room]
    rfl

/-- Either nothing can be listed, or records are listed from a table. -/
theorem lists_or_refuses (held? : Option Selection.Held) (capacity : Nat) (before : List Record)
    (kept : ∀ table, s.registry.tableFor? type = some table → ∃ t, s.Keeps type table t) :
    (∃ table t selection, ListsFrom s type held? capacity before table t selection)
      ∨ ∃ fault, RefusesListing s.registry s type held? capacity before fault := by
  have usable : (∃ cause, held? = some (.error cause))
      ∨ ∃ selection : Option Selection, held? = selection.map .ok := by
    rcases held? with _ | cause | c
    · exact .inr ⟨none, rfl⟩
    · exact .inl ⟨cause, rfl⟩
    · exact .inr ⟨some c, rfl⟩
  rcases usable with ⟨cause, failed⟩ | ⟨selection, held⟩
  · exact .inr ⟨_, .condition failed⟩
  · cases registered : s.registry.tableFor? type with
    | none => exact .inr ⟨_, .notRegistered held registered⟩
    | some table =>
      obtain ⟨t, keeps⟩ := kept table registered
      by_cases own : ∀ c ∈ selection, c.table = table
      · by_cases needed : ∀ c ∈ selection, c.Undecided →
          t.rows.isEmpty = true ∨ isFull (limitOf capacity) before = true
        · exact .inl ⟨table, t, selection, held, keeps, own, needed⟩
        · simp only [not_forall, not_or, Bool.not_eq_true] at needed
          obtain ⟨c, member, undecided, nonempty, room⟩ := needed
          obtain rfl := own c member
          cases member
          exact .inr ⟨_, .undecided held registered keeps.followed undecided nonempty room⟩
      · simp only [not_forall] at own
        obtain ⟨c, member, other⟩ := own
        cases member
        exact .inr ⟨_, .otherTable held registered other⟩

/-- Records that are listed are put behind the list. -/
theorem ListsFrom.gains {table : String}
    (lists : ListsFrom s type held? capacity before table t selection)
    (decided : ∀ c ∈ selection, c.Undecided ∨ ∃ test : Record → Bool, ∀ r, r.type = type →
      c.selects r = .ok (test r))
    (appends : s.Appends type held? capacity before result) :
    ∃ after ids records, result = (after, .ok ())
      ∧ Gains t selection capacity before after ids records := by
  obtain ⟨rfl, keeps, own, needed⟩ := lists
  obtain ⟨order, perm, rfl⟩ := appends.exists_order (listedTable_of_keeps keeps own)
  cases selection with
  | none => exact keeps.gains_of_decided perm fun r _ => rfl
  | some c =>
    rcases decided c rfl with undecided | ⟨test, decided⟩
    · refine ⟨before, [], [], ?_, gains_nil undecided t capacity before⟩
      rw [fill_of_undecided (asksFor_of_undecided undecided), isEmpty_of_perm perm,
        if_pos (needed c rfl undecided)]
    · exact keeps.gains_of_decided perm fun r member => decided r (keeps.type_of_mem member)

end Store

/-- Whatever has been reported to a replica, and whenever a selection has been made: listing into a
list of some capacity, in whatever order the records are gone through, puts stored records that are
asked for behind it, each from a row of its own, all of them if the list has no capacity, and
otherwise as many as it still has room for; or else it leaves the list as it is and fails, which it
does exactly if there is no selection although one has been tried for, the record type is not
registered or not the one of the selection, or nothing says which rows the selection is about and
there is a record to be looked at. -/
theorem Replica.append_fits {schema : Schema} {registry : Registry} {capacity : Nat}
    {start : Replica} (created : Replica.new schema registry capacity = .ok start)
    (earlier reports : List Changes) {held? : Option Selection.Held}
    (asked : ∀ held ∈ held?, held.AskedOf (start.populateAll earlier).1.store)
    (type : RecordType) (room : Nat) (before : List Record) :
    let s := (start.populateAll reports).1.store
    s.Appends type held? room before (s.append type held? room before)
      ∧ ∀ after outcome, s.Appends type held? room before (after, outcome) →
        (outcome = .ok () → ∃ table t selection ids records,
          registry.tableFor? type = some table ∧ s.table? table = some t
            ∧ held? = Option.map .ok selection ∧ (∀ c ∈ selection, c.table = table)
            ∧ Store.Gains t selection room before after ids records
            ∧ (room ≠ 0 → after.length ≤ max before.length room))
        ∧ ∀ fault, (outcome = .error fault → after = before)
          ∧ (outcome = .error fault ↔
            Store.RefusesListing registry s type held? room before fault) := by
  intro s
  have serves : s.Serves schema registry := serves created reports
  have kept : ∀ table, s.registry.tableFor? type = some table → ∃ t, s.Keeps type table t :=
    fun table registered => exists_keeps created reports (serves.sameRegistry ▸ registered)
  refine ⟨s.appends_append type held? room before, fun after outcome appends => ?_⟩
  have gained : ∀ table t selection, Store.ListsFrom s type held? room before table t selection →
      ∃ ids records, outcome = .ok () ∧ Store.Gains t selection room before after ids records := by
    intro table t selection lists
    have decided : ∀ c ∈ selection, c.Undecided ∨ ∃ test : Record → Bool, ∀ r, r.type = type →
        c.selects r = .ok (test r) := by
      intro c member
      have made := (asked (.ok c) (by rw [lists.held, member]; rfl)).madeOf rfl
      have bound := made.binding?_eq_some (Replica.serves created earlier)
      have registered : registry.tableFor? type = some c.table := by
        rw [lists.own c member, ← serves.sameRegistry, lists.keeps.registered]
      rw [← Selection.type_of_registered bound registered]
      exact made.undecided_or (Replica.serves created earlier)
    obtain ⟨after', ids, records, same, gains⟩ := lists.gains decided appends
    cases same
    exact ⟨ids, records, rfl, gains⟩
  have refused : ∀ fault, Store.RefusesListing registry s type held? room before fault →
      after = before ∧ outcome = .error fault := fun fault refuses =>
    Prod.mk.inj ((serves.sameRegistry.symm ▸ refuses).eq kept appends)
  have decided := Store.lists_or_refuses held? room before kept
  rw [serves.sameRegistry] at decided
  obtain ⟨succeeds, fails⟩ := Except.iff_of_decided decided
    (fun ⟨table, t, selection, lists⟩ =>
      let ⟨_, _, done, _⟩ := gained table t selection lists
      ⟨(), done⟩)
    (fun fault refuses => (refused fault refuses).2)
  constructor
  · intro done
    obtain ⟨table, t, selection, lists⟩ := succeeds.mp ⟨(), done⟩
    obtain ⟨ids, records, -, gains⟩ := gained table t selection lists
    exact ⟨table, t, selection, ids, records, serves.sameRegistry ▸ lists.keeps.registered,
      lists.keeps.followed, lists.held, lists.own, gains, gains.length_le⟩
  · intro fault
    exact ⟨fun failed => (refused fault ((fails fault).mp failed)).1, fails fault⟩

/-- Of the two bridges of one name the list of another one has room for one, whichever that is; and
it is left as it is under a selection by a field that there is not. -/
theorem Replica.append_fits_bridges :
    ∃ start, Replica.new Sample.schema Sample.registry 4 = .ok start
      ∧ let s := (start.populateAll [Sample.threeBridges]).1.store
        let own := Sample.record "9" "br9" ""
        let held := Selection.ofPredicate s Sample.bridge.type (Sample.isNamed "br0")
        (∀ after, s.Appends Sample.bridge.type (some held) 2 [own] (after, .ok ()) →
            ∃ r, after = [own, r] ∧ Sample.isNamed "br0" r = true)
          ∧ s.append Sample.bridge.type (some (Selection.ofRecord s own ["colour"])) 2 [own] =
            ([own], .error (.condition (.core (.fieldNotFound "Bridge" "colour")))) := by
  obtain ⟨start, created, failed⟩ : ∃ start, Replica.new Sample.schema Sample.registry 4 = .ok start
      ∧ Selection.ofRecord (start.populateAll [Sample.threeBridges]).1.store
          (Sample.record "9" "br9" "") ["colour"] =
        .error (.core (.fieldNotFound "Bridge" "colour")) :=
    ⟨_, rfl, rfl⟩
  refine ⟨start, created, ?_⟩
  intro s own held
  have asked : ∀ h ∈ some held, Selection.Held.AskedOf s h := by
    rintro h ⟨⟩
    exact .predicate _ _
  have askedByRecord :
      ∀ h ∈ some (Selection.ofRecord s own ["colour"]), Selection.Held.AskedOf s h := by
    rintro h ⟨⟩
    exact .record _ _
  constructor
  · intro after appends
    obtain ⟨-, fits⟩ := append_fits created [Sample.threeBridges] [Sample.threeBridges] asked
      Sample.bridge.type 2 [own]
    obtain ⟨table, t, selection, ids, records, registered, followed, same, -, gains, -⟩ :=
      (fits after _ appends).1 rfl
    cases created
    cases registered
    cases followed
    cases selection with
    | none => cases same
    | some c =>
      have made : Except.ok _ = Except.ok c := Option.some.inj same
      cases made
      have number : records.length = 1 := gains.number
      obtain ⟨r, rfl⟩ := List.length_eq_one_iff.mp number
      obtain ⟨id, ids, ⟨-, asked⟩, -, rfl⟩ := List.forall₂_cons_right_iff.mp gains.stored
      refine ⟨r, gains.appended, ?_⟩
      rw [Store.asksFor, Selection.selects] at asked
      dsimp only at asked
      split at asked
      next => exact Except.ok.inj asked
      next => cases asked
  · obtain ⟨appends, fits⟩ := append_fits created [Sample.threeBridges] [Sample.threeBridges]
      askedByRecord Sample.bridge.type 2 [own]
    obtain ⟨unchanged, fails⟩ := (fits _ _ appends).2 _
    have refused := fails.mpr (.condition (congrArg some failed))
    exact Prod.ext (unchanged refused) refused

end TableReplica
