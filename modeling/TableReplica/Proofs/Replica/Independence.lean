import TableReplica.Proofs.Replica.Soundness
import TableReplica.Proofs.Text.Bytes

/-!
# Changes are independent of each other

What a report does is what its changes of single rows do, each on its own: the report can be taken
apart into reports of one change each, in any order, and the store that this leads to is the same
(`Store.applyAll_alone`). A change that cannot be applied does nothing at all and is reported once,
in its place among the others (`Replica.populate_by_rows`).
-/

namespace TableReplica

/-! ## Places -/

/-- Whether the row of a table comes before another one: by the bytes of the names of the tables,
and within a table by the bytes of the identifiers. -/
def Precedes (place later : String × String) : Prop :=
  Text.bytes place.1 < Text.bytes later.1
    ∨ place.1 = later.1 ∧ Text.bytes place.2 < Text.bytes later.2

theorem Precedes.ne {place later : String × String} (precedes : Precedes place later) :
    place ≠ later := by
  rintro rfl
  rcases precedes with earlier | ⟨-, earlier⟩
  · exact List.lt_irrefl _ earlier
  · exact List.lt_irrefl _ earlier

/-- The table and the row that a change is about. -/
def Delta.place (d : Delta) : String × String := (d.table, d.row)

/-- The table and the row of a change that could not be applied. -/
def DeltaFault.place (f : DeltaFault) : String × String := (f.table, f.row)

namespace Changes

/-- Changes are applied in the order of their places. -/
theorem deltas_ascending (changes : Changes) :
    changes.deltas.Pairwise fun d e => Precedes d.place e.place := by
  rw [deltas, List.pairwise_flatMap]
  constructor
  · intro table _
    rw [List.pairwise_map]
    exact table.2.ascending.imp fun below => .inr ⟨rfl, Text.compare_eq_lt_iff.mp below⟩
  · refine changes.ascending.imp fun below => ?_
    rintro d inTable e inLater
    obtain ⟨row, -, rfl⟩ := List.mem_map.mp inTable
    obtain ⟨row', -, rfl⟩ := List.mem_map.mp inLater
    exact .inl (Text.compare_eq_lt_iff.mp below)

theorem places_nodup (changes : Changes) : (changes.deltas.map Delta.place).Nodup := by
  rw [List.Nodup, List.pairwise_map]
  exact changes.deltas_ascending.imp Precedes.ne

end Changes

/-! ## Single changes -/

namespace Delta

/-- The report of one change alone. -/
def alone (d : Delta) : Changes :=
  .insert .empty d.table (.insert .empty d.row d.change)

theorem deltas_alone (d : Delta) : d.alone.deltas = [d] := rfl

theorem change?_alone (d : Delta) (table id : String) :
    d.alone.change? table id = if d.place = (table, id) then some d.change else none := by
  rw [alone, Changes.change?, SortedMap.get?_insert, place]
  by_cases sameTable : table = d.table
  · subst sameTable
    rw [if_pos rfl, Option.bind_some, SortedMap.get?_insert]
    by_cases sameRow : id = d.row
    · rw [if_pos sameRow, if_pos (by rw [sameRow])]
    · rw [if_neg sameRow, if_neg fun same => sameRow (Prod.ext_iff.mp same).2.symm]
      rfl
  · rw [if_neg sameTable, if_neg fun same => sameTable (Prod.ext_iff.mp same).1.symm]
    rfl

end Delta

namespace Store

variable {s : Store}

/-- A store is known from its schema and its registry, from what its tables are bound to and from
its rows. -/
theorem ext_row? {t : Store} (schemas : s.schema = t.schema) (registries : s.registry = t.registry)
    (bindings : ∀ table, s.binding table = t.binding table)
    (rows : ∀ table id, s.row? table id = t.row? table id) : s = t := by
  have tables : s.tables = t.tables := by
    apply SortedMap.ext_get?
    intro name
    change s.table? name = t.table? name
    have bound := bindings name
    have held := rows name
    rw [Store.binding, Store.binding] at bound
    simp only [row?] at held
    cases inLeft : s.table? name <;> cases inRight : t.table? name <;>
      simp only [inLeft, inRight, Except.ok.injEq, reduceCtorEq, Option.bind_some] at bound held ⊢
    next left right =>
      have sameRows : left.rows = right.rows := SortedMap.ext_get? held
      cases left
      cases right
      cases bound
      cases sameRows
      rfl
  cases s
  cases t
  cases schemas
  cases registries
  cases tables
  rfl

/-- Whether the change of a row cannot be applied to the record that stands for the row. -/
def Refuses (s : Store) (d : Delta) (cause : ConversionFault) : Prop :=
  ∃ b, s.binding d.table = .ok b
    ∧ b.effect? d.row (s.row? d.table d.row) d.change = .error cause

theorem faultOf_eq_some_iff (sound : s.Sound) {d : Delta} {f : DeltaFault} :
    s.faultOf d = some f ↔ f.place = d.place ∧ s.Refuses d f.cause := by
  rw [faultOf]
  constructor
  · intro faulty
    obtain ⟨t, followed, faulty⟩ := Option.bind_eq_some_iff.mp faulty
    rw [Binding.faultOf] at faulty
    split at faulty
    next cause refused =>
      cases faulty
      refine ⟨Prod.ext (sound.named d.table t followed) rfl, t.binding, ?_, ?_⟩
      · exact binding_eq_ok_iff.mpr ⟨t, followed, rfl⟩
      · rw [row?, followed, Option.bind_some, refused]
    next => cases faulty
  · rintro ⟨samePlace, b, bound, refused⟩
    obtain ⟨t, followed, rfl⟩ := binding_eq_ok_iff.mp bound
    rw [row?, followed, Option.bind_some] at refused
    rw [followed, Option.bind_some, Binding.faultOf, refused]
    obtain ⟨sameTable, sameRow⟩ := Prod.ext_iff.mp samePlace
    have named : t.binding.table = f.table :=
      (sound.named d.table t followed).trans sameTable.symm
    simp only [DeltaFault.place, Delta.place] at sameRow
    rw [named, ← sameRow]

/-- A change that cannot be applied raises no event. -/
theorem Refuses.eventOf {d : Delta} {cause : ConversionFault} (refuses : s.Refuses d cause) :
    s.eventOf d = none := by
  obtain ⟨b, bound, refused⟩ := refuses
  obtain ⟨t, followed, rfl⟩ := binding_eq_ok_iff.mp bound
  rw [row?, followed, Option.bind_some] at refused
  rw [Store.eventOf, followed, Option.bind_some, Binding.eventOf, refused]

/-- And it leaves its row as it is. -/
theorem Refuses.row?_apply {d : Delta} {cause : ConversionFault} (refuses : s.Refuses d cause)
    {changes : Changes} (member : d ∈ changes.deltas) :
    (s.apply changes).state.row? d.table d.row = s.row? d.table d.row := by
  obtain ⟨b, bound, refused⟩ := refuses
  rw [Store.row?_apply bound, Changes.mem_deltas_iff.mp member, Binding.follow,
    Binding.recordAfter, refused]

/-- What is wrong with a change depends on nothing but the record of its own row. -/
theorem faultOf_apply_of_silent {changes : Changes} {d : Delta}
    (silent : changes.change? d.table d.row = none) :
    (s.apply changes).state.faultOf d = s.faultOf d := by
  rw [faultOf, faultOf, table?_apply]
  cases s.table? d.table with
  | none => rfl
  | some t =>
    rw [Changes.change?] at silent
    cases reported : changes.get? d.table with
    | none => rfl
    | some rows =>
      rw [reported, Option.bind_some] at silent
      simp only [Option.map_some, Option.bind_some]
      rw [t.binding_apply, t.rows_apply, silent, Binding.follow]

/-! ## Reports taken apart -/

variable {ds : List Delta}

/-- Single changes of different rows, whatever their order, do to each row what its own change
does. -/
theorem row?_applyAll_alone (distinct : (ds.map Delta.place).Nodup) {table : String} {b : Binding}
    (bound : s.binding table = .ok b) (id : String) :
    (s.applyAll (ds.map Delta.alone)).row? table id =
      b.follow id (s.row? table id)
        ((ds.find? fun d => d.place = (table, id)).map Delta.change) := by
  induction ds generalizing s with
  | nil => rfl
  | cons d rest ih =>
    rw [List.map_cons, List.nodup_cons] at distinct
    have bound' := (s.binding_apply d.alone table).trans bound
    refine (ih distinct.2 bound').trans ?_
    rw [row?_apply bound, Delta.change?_alone]
    by_cases same : d.place = (table, id)
    · -- The row does not come again.
      have once : rest.find? (fun d => d.place = (table, id)) = none := by
        rw [List.find?_eq_none]
        intro e later samePlace
        have samePlace' : e.place = d.place := (of_decide_eq_true samePlace).trans same.symm
        exact distinct.1 (List.mem_map.mpr ⟨e, later, samePlace'⟩)
      rw [if_pos same, once, List.find?_cons_of_pos (by simpa using same)]
      rfl
    · rw [if_neg same, List.find?_cons_of_neg (by simpa using same)]
      rfl

theorem find?_of_perm {changes : Changes} (same : ds.Perm changes.deltas) (table id : String) :
    (ds.find? fun d => d.place = (table, id)).map Delta.change = changes.change? table id := by
  cases found : ds.find? fun d => d.place = (table, id) with
  | some d =>
    have member := Changes.mem_deltas_iff.mp (same.mem_iff.mp (List.mem_of_find?_eq_some found))
    have place : d.place = (table, id) := by simpa using List.find?_some found
    cases place
    rw [member]
    rfl
  | none =>
    cases reported : changes.change? table id with
    | none => rfl
    | some c =>
      have member : ⟨table, id, c⟩ ∈ ds := same.mem_iff.mpr (Changes.mem_deltas_iff.mpr reported)
      exact absurd (decide_eq_true rfl) (List.find?_eq_none.mp found _ member)

/-- The single changes of a report, in any order, lead to the same store as the report. -/
theorem applyAll_alone {changes : Changes} (same : ds.Perm changes.deltas) :
    s.applyAll (ds.map Delta.alone) = (s.apply changes).state := by
  have distinct : (ds.map Delta.place).Nodup :=
    (same.map Delta.place).nodup_iff.mpr changes.places_nodup
  obtain ⟨schemas, registries, bindings⟩ :
      (s.applyAll (ds.map Delta.alone)).schema = s.schema
        ∧ (s.applyAll (ds.map Delta.alone)).registry = s.registry
        ∧ ∀ table, (s.applyAll (ds.map Delta.alone)).binding table = s.binding table :=
    applyAll_invariant (fun t => t.schema = s.schema ∧ t.registry = s.registry
        ∧ ∀ table, t.binding table = s.binding table)
      (fun t changes kept => ⟨(t.schema_apply changes).trans kept.1,
        (t.registry_apply changes).trans kept.2.1,
        fun table => (t.binding_apply changes table).trans (kept.2.2 table)⟩)
      ⟨rfl, rfl, fun _ => rfl⟩ _
  refine ext_row? (schemas.trans (s.schema_apply changes).symm)
    (registries.trans (s.registry_apply changes).symm)
    (fun table => (bindings table).trans (s.binding_apply changes table).symm) ?_
  intro table id
  cases bound : s.binding table with
  | ok b => rw [row?_applyAll_alone distinct bound, row?_apply bound, find?_of_perm same]
  | error cause =>
    rw [row?_of_unbound (by simp [bindings, bound]), row?_of_unbound (by simp [bound])]

/-! ## What could not be applied -/

theorem mem_faults_apply_iff (sound : s.Sound) {changes : Changes} {f : DeltaFault} :
    f ∈ (s.apply changes).faults ↔
      ∃ d ∈ changes.deltas, f.place = d.place ∧ s.Refuses d f.cause := by
  rw [faults_apply, List.mem_filterMap]
  simp only [faultOf_eq_some_iff sound]

/-- Changes that could not be applied are listed in the order of their places. -/
theorem faults_apply_ascending (sound : s.Sound) (changes : Changes) :
    (s.apply changes).faults.Pairwise fun f g => Precedes f.place g.place := by
  rw [faults_apply, List.pairwise_filterMap]
  refine changes.deltas_ascending.imp fun precedes f faulty g faulty' => ?_
  rwa [((faultOf_eq_some_iff sound).mp faulty).1, ((faultOf_eq_some_iff sound).mp faulty').1]

end Store

/-- In a list in the order of places, nothing else has the place of a change that could not be
applied. -/
theorem filter_place_of_mem {faults : List DeltaFault}
    (ascending : faults.Pairwise fun f g => Precedes f.place g.place) {f : DeltaFault}
    (member : f ∈ faults) : faults.filter (fun g => g.place = f.place) = [f] := by
  induction faults with
  | nil => cases member
  | cons first rest ih =>
    rw [List.pairwise_cons] at ascending
    rcases List.mem_cons.mp member with rfl | later
    · have others : rest.filter (fun g => g.place = f.place) = [] := by
        rw [List.filter_eq_nil_iff]
        exact fun g after samePlace =>
          (ascending.1 g after).ne (of_decide_eq_true samePlace).symm
      rw [List.filter_cons_of_pos (by simp), others]
    · have ne : first.place ≠ f.place := (ascending.1 f later).ne
      rw [List.filter_cons_of_neg (by simpa using ne), ih ascending.2 later]

/-! ## Calls -/

namespace Replica

/-- The changes that a call has reported as not applied. -/
def reported : Except ReplicaFault Unit → List DeltaFault
  | .error (.populate faults) => faults
  | _ => []

theorem result_populate (p : Replica) (changes : Changes) : (p.populate changes).2 =
    if (p.store.apply changes).faults = [] then .ok ()
    else .error (.populate (p.store.apply changes).faults) := by
  rw [populate]
  cases (p.store.apply changes).faults <;> rfl

theorem reported_populate (p : Replica) (changes : Changes) :
    reported (p.populate changes).2 = (p.store.apply changes).faults := by
  rw [result_populate]
  split
  next applied =>
    rw [applied]
    rfl
  next => rfl

/-- Single changes of different rows are reported if they cannot be applied to what there was before
all of them. -/
theorem reported_populateAll_alone (p : Replica) {ds : List Delta}
    (distinct : (ds.map Delta.place).Nodup) :
    (p.populateAll (ds.map Delta.alone)).2.flatMap reported = ds.filterMap p.store.faultOf := by
  induction ds generalizing p with
  | nil => rfl
  | cons d rest ih =>
    rw [List.map_cons, List.nodup_cons] at distinct
    have later : ∀ e ∈ rest, (p.populate d.alone).1.store.faultOf e = p.store.faultOf e := by
      intro e member
      apply Store.faultOf_apply_of_silent
      rw [Delta.change?_alone, if_neg]
      exact fun same => distinct.1 (List.mem_map.mpr ⟨e, member, same.symm⟩)
    have step : (p.populateAll ((d :: rest).map Delta.alone)).2 =
        (p.populate d.alone).2 :: ((p.populate d.alone).1.populateAll (rest.map Delta.alone)).2 :=
      rfl
    rw [step, List.flatMap_cons, ih (p.populate d.alone).1 distinct.2, reported_populate,
      Store.faults_apply, Delta.deltas_alone, List.filterMap_congr later, ← List.filterMap_append,
      List.singleton_append]

/-- A report does to each row what the change of the row says, which depends on nothing but the
record that stands for the row before; all other rows stay as they are. A change that cannot be
applied leaves its row as it is, raises no event and is reported once, in the order of the tables
and rows; the call succeeds exactly if there is none, and fails for no other reason. So the changes
of the report, each reported alone and in any order, lead to the same store and to the same changes
that could not be applied. -/
theorem populate_by_rows {schema : Schema} {registry : Registry} {capacity : Nat} {start : Replica}
    (created : Replica.new schema registry capacity = .ok start) (earlier : List Changes)
    (changes : Changes) :
    let p := (start.populateAll earlier).1
    let after := (p.populate changes).1
    let faults := reported (p.populate changes).2
    -- Both look-ups that a call makes for a table that it follows find what they look for.
    (∀ table t, p.store.table? table = some t →
        schema.table? table = some t.binding.schema
          ∧ registry.layout? table = some t.binding.layout)
      ∧ (∀ table b, registry.binding? schema table = some b → ∀ id,
        after.store.row? table id =
          b.follow id (p.store.row? table id) (changes.change? table id))
      ∧ (∀ table, registry.binding? schema table = none → ∀ id,
        p.store.row? table id = none ∧ after.store.row? table id = none)
      ∧ (∀ table id, changes.change? table id = none →
        after.store.row? table id = p.store.row? table id)
      ∧ after.delivery = p.delivery.post (changes.deltas.filterMap p.store.eventOf)
      ∧ (∀ d ∈ changes.deltas, ∀ cause, p.store.Refuses d cause →
        after.store.row? d.table d.row = p.store.row? d.table d.row
          ∧ p.store.eventOf d = none
          ∧ faults.filter (fun f => f.place = d.place) = [⟨d.table, d.row, cause⟩])
      ∧ (∀ f ∈ faults, ∃ d ∈ changes.deltas, f.place = d.place ∧ p.store.Refuses d f.cause)
      ∧ faults.Pairwise (fun f g => Precedes f.place g.place)
      ∧ (p.populate changes).2 = (if faults = [] then .ok () else .error (.populate faults))
      ∧ ∀ ds : List Delta, ds.Perm changes.deltas →
        (p.populateAll (ds.map Delta.alone)).1.store = after.store
          ∧ ((p.populateAll (ds.map Delta.alone)).2.flatMap reported).Perm faults := by
  intro p after faults
  have serves : p.store.Serves schema registry := serves created earlier
  have sound : p.store.Sound := sound created earlier
  have listed : faults = (p.store.apply changes).faults := p.reported_populate changes
  have ascending : faults.Pairwise fun f g => Precedes f.place g.place := by
    rw [listed]
    exact Store.faults_apply_ascending sound changes
  have bound : ∀ table b, registry.binding? schema table = some b → ∀ id,
      after.store.row? table id =
        b.follow id (p.store.row? table id) (changes.change? table id) :=
    fun table b bound id => Store.row?_apply ((serves.bindings table b).mpr bound) id
  have unbound : ∀ table, registry.binding? schema table = none → ∀ id,
      p.store.row? table id = none ∧ after.store.row? table id = none := by
    intro table unbound id
    have unbound' : ∀ b, p.store.binding table ≠ .ok b := by
      intro b bound
      rw [(serves.bindings table b).mp bound] at unbound
      cases unbound
    refine ⟨Store.row?_of_unbound unbound' id, Store.row?_of_unbound ?_ id⟩
    exact fun b bound => unbound' b ((p.store.binding_apply changes table).symm.trans bound)
  refine ⟨?_, bound, unbound, ?_, ?_, ?_, ?_, ascending, ?_, ?_⟩
  · intro table t followed
    have bound := (serves.bindings table t.binding).mp
      (Store.binding_eq_ok_iff.mpr ⟨t, followed, rfl⟩)
    exact (Registry.binding?_eq_some_iff.mp bound).symm
  · intro table id silent
    cases found : registry.binding? schema table with
    | none => rw [(unbound table found id).1, (unbound table found id).2]
    | some b =>
      rw [bound table b found id, silent]
      rfl
  · exact congrArg p.delivery.post (p.store.events_apply changes)
  · intro d member cause refuses
    refine ⟨refuses.row?_apply member, refuses.eventOf, ?_⟩
    have member' : ⟨d.table, d.row, cause⟩ ∈ faults := by
      rw [listed]
      exact (Store.mem_faults_apply_iff sound).mpr ⟨d, member, rfl, refuses⟩
    exact filter_place_of_mem ascending member'
  · intro f member
    rw [listed] at member
    exact (Store.mem_faults_apply_iff sound).mp member
  · rw [listed]
    exact p.result_populate changes
  · intro ds same
    have distinct : (ds.map Delta.place).Nodup :=
      (same.map Delta.place).nodup_iff.mpr changes.places_nodup
    constructor
    · rw [store_populateAll]
      exact Store.applyAll_alone same
    · rw [p.reported_populateAll_alone distinct, listed, Store.faults_apply]
      exact same.filterMap _

end Replica

/-! ## An example -/

namespace Sample

/-- A bridge appears. -/
def arrival : Changes := .ofList [("Bridge", .ofList [("1", .insert (row "br0"))])]

/-- A bridge whose name is not a text. -/
def misnamed : RowChange := .insert (.ofList [("name", .atom (.boolean true))])

/-- A bridge is renamed, next to a misnamed one and to a row of a table that is not followed. -/
def mixed : Changes := .ofList [
  ("Bridge", .ofList [("1", .modify (row "br0") (row "br1")), ("2", misnamed)]),
  ("Port", .ofList [("3", misnamed)])]

end Sample

/-- In whatever order the changes come, the bridge is renamed and the misnamed one is reported. -/
theorem Replica.populate_by_rows_bridges :
    ∃ start, Replica.new Sample.schema Sample.registry 4 = .ok start
      ∧ let p := (start.populateAll [Sample.arrival]).1
        ∃ cause, p.store.Refuses ⟨"Bridge", "2", Sample.misnamed⟩ cause
          ∧ (p.populate Sample.mixed).1.store.row? "Bridge" "2" = none
          ∧ (reported (p.populate Sample.mixed).2).filter (fun f => f.place = ("Bridge", "2")) =
            [⟨"Bridge", "2", cause⟩]
          ∧ (p.populateAll (Sample.mixed.deltas.reverse.map Delta.alone)).1.store =
            (p.populate Sample.mixed).1.store
          ∧ (p.populate Sample.mixed).1.store.row? "Bridge" "1" =
            some (Sample.record "1" "br1" "") := by
  obtain ⟨start, created⟩ := Sample.exists_replica
  obtain ⟨-, rows, -, -, -, refused, -, -, -, apart⟩ :=
    populate_by_rows created [Sample.arrival] Sample.mixed
  cases created
  have member : ⟨"Bridge", "2", Sample.misnamed⟩ ∈ Sample.mixed.deltas :=
    Changes.mem_deltas_iff.mpr (rfl : Sample.mixed.change? "Bridge" "2" = some Sample.misnamed)
  refine ⟨_, rfl, _, ⟨_, rfl, rfl⟩, ?_⟩
  obtain ⟨unchanged, -, once⟩ := refused _ member _ ⟨_, rfl, rfl⟩
  exact ⟨unchanged, once, (apart _ (List.reverse_perm _)).1,
    rows "Bridge" ⟨Sample.bridges, Sample.bridge⟩ rfl "1"⟩

end TableReplica
