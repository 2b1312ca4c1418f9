import TableReplica.Proofs.Replica.Upstream

/-!
# Late replies

What a database holds when a monitor starts may reach the replica after some of the reports on later
transactions. A row that is reported once more after that has the record that it should have, since
a report leaves the record of the new row whatever record was there (`Upstream.History.followAll`).
Any other row keeps the record that it had when the monitor started, or comes back with it
(`Replica.rows_of_late_contents_iff`).
-/

namespace TableReplica

/-- No report says anything about a row. -/
def Changes.Silent (table id : String) (reports : List Changes) : Prop :=
  ∀ changes ∈ reports, changes.change? table id = none

namespace Binding

variable (b : Binding) (table id : String) (known : Option Record)

theorem followAll_append (before after : List Changes) :
    b.followAll table id known (before ++ after) =
      b.followAll table id (b.followAll table id known before) after :=
  List.foldl_append

theorem followAll_cons (changes : Changes) (rest : List Changes) :
    b.followAll table id known (changes :: rest) =
      b.followAll table id (b.follow id known (changes.change? table id)) rest := rfl

variable {b table id known}

theorem followAll_of_silent {reports : List Changes} (silent : Changes.Silent table id reports) :
    b.followAll table id known reports = known := by
  induction reports with
  | nil => rfl
  | cons changes rest ih =>
    rw [followAll_cons, silent changes List.mem_cons_self, follow]
    exact ih fun later member => silent later (List.mem_cons_of_mem changes member)

end Binding

variable {schema : Schema} {registry : Registry} {m : Subscription schema registry}

namespace Upstream

variable {first last : Upstream m} {table id : String} {b : Binding}

theorem History.of_append {before after : List Changes}
    (history : History first (before ++ after) last) :
    ∃ middle, History first before middle ∧ History middle after last := by
  induction before generalizing first with
  | nil => exact ⟨first, .refl first, history⟩
  | cons changes rest ih =>
    cases history with
    | step head tail =>
      obtain ⟨middle, early, late⟩ := ih tail
      exact ⟨middle, .step head early, late⟩

theorem History.row?_of_silent {reports : List Changes} (history : History first reports last)
    (bound : registry.binding? schema table = some b) (silent : Changes.Silent table id reports) :
    last.database.row? table id = first.database.row? table id := by
  induction history with
  | refl => rfl
  | @step first next last changes rest head tail ih =>
    rw [ih fun later member => silent later (List.mem_cons_of_mem changes member)]
    exact head.unreported table b bound id (silent changes List.mem_cons_self)

theorem Step.follow {before after : Upstream m} {changes : Changes}
    (step : Step before changes after) (bound : registry.binding? schema table = some b)
    {c : RowChange} (reported : changes.change? table id = some c) {known : Option Record}
    (tidy : before.database.row? table id ≠ none → b.Tidy (m.columns table) known) :
    b.follow id known (changes.change? table id) = b.image id (after.database.row? table id) := by
  obtain ⟨e, applies, result⟩ := step.effect? bound reported tidy
  rw [reported, Binding.follow, Binding.recordAfter, applies, ← result]

/-- Whatever is known of a row at first, as soon as it has been reported it has the record that it
should have. -/
theorem History.followAll {reports : List Changes} (history : History first reports last)
    (bound : registry.binding? schema table = some b) {known : Option Record}
    (tidy : first.database.row? table id ≠ none → b.Tidy (m.columns table) known)
    (reported : ¬ Changes.Silent table id reports) :
    b.followAll table id known reports = b.image id (last.database.row? table id) := by
  -- What is known may change along the way, but it stays tidy until the last report on the row.
  induction history generalizing known with
  | refl => exact absurd (by rintro _ ⟨⟩) reported
  | @step first next last changes rest head tail ih =>
    rw [Binding.followAll_cons]
    by_cases later : Changes.Silent table id rest
    · cases found : changes.change? table id with
      | none =>
        refine absurd (fun other member => ?_) reported
        rcases List.mem_cons.mp member with rfl | member
        · exact found
        · exact later other member
      | some c =>
        rw [← found, head.follow bound found tidy, Binding.followAll_of_silent later,
          tail.row?_of_silent bound later]
    · refine ih (fun present => ?_) later
      cases found : changes.change? table id with
      | none =>
        rw [head.unreported table b bound id found] at present
        exact tidy present
      | some c =>
        rw [← found, head.follow bound found tidy]
        exact Binding.tidy_image (next.monitored table b bound id)

/-- A row that has the record that it should have keeps having it. -/
theorem History.followAll_image {reports : List Changes} (history : History first reports last)
    (bound : registry.binding? schema table = some b) :
    b.followAll table id (b.image id (first.database.row? table id)) reports =
      b.image id (last.database.row? table id) := by
  by_cases silent : Changes.Silent table id reports
  · rw [Binding.followAll_of_silent silent, history.row?_of_silent bound silent]
  · exact history.followAll bound (fun _ => Binding.tidy_image (first.monitored table b bound id))
      silent

/-- What a database holds, when it is reported, replaces whatever was known of its rows. -/
theorem follow_contents (u : Upstream m) (bound : registry.binding? schema table = some b)
    (known : Option Record) {row : WireRow} (present : u.database.row? table id = some row) :
    b.follow id known (u.database.contents.change? table id) = b.image id (some row) := by
  have reported : u.database.contents.change? table id = some (.insert row) := by
    rw [Database.change?_contents, present, Option.map_some]
  rw [u.step_contents.follow bound reported fun absurdly => absurd rfl absurdly, present]

end Upstream

/-- A row of a store comes to the same whether what the database holds is reported first or later,
unless the row was there at first, is not reported any more after that, and should have another
record by then. -/
theorem Store.row?_late_contents_iff {s : Store} (serves : s.Serves schema registry)
    {first last : Upstream m} {before after : List Changes}
    (history : Upstream.History first (before ++ after) last) {table : String} {b : Binding}
    (bound : registry.binding? schema table = some b) (id : String) :
    (s.applyAll (before ++ first.database.contents :: after)).row? table id =
        (s.applyAll (first.database.contents :: (before ++ after))).row? table id
      ↔ ∀ row ∈ first.database.row? table id, Changes.Silent table id after →
        b.image id (last.database.row? table id) = b.image id (some row) := by
  have isBound := (serves.bindings table b).mpr bound
  rw [row?_applyAll isBound, row?_applyAll isBound, Binding.followAll_append,
    Binding.followAll_cons, Binding.followAll_cons]
  cases present : first.database.row? table id with
  | none =>
    -- A row that was not there at first is not among the contents.
    have silent : first.database.contents.change? table id = none := by
      rw [Database.change?_contents, present, Option.map_none]
    rw [silent, Binding.follow, Binding.follow, ← Binding.followAll_append]
    simp
  | some row =>
    obtain ⟨middle, -, late⟩ := history.of_append
    have tidy : b.Tidy (m.columns table) (b.image id (some row)) := by
      rw [← present]
      exact Binding.tidy_image (first.monitored table b bound id)
    have inOrder : b.followAll table id (b.image id (some row)) (before ++ after) =
        b.image id (last.database.row? table id) := by
      rw [← present]
      exact history.followAll_image bound
    rw [first.follow_contents bound _ present, first.follow_contents bound _ present, inOrder]
    by_cases silent : Changes.Silent table id after
    · rw [Binding.followAll_of_silent silent]
      constructor
      · rintro same _ ⟨⟩ -
        exact same.symm
      · exact fun unchanged => (unchanged row rfl silent).symm
    · rw [late.followAll bound (fun _ => tidy) silent]
      exact ⟨fun _ _ _ quiet => absurd quiet silent, fun _ => rfl⟩

/-- When what a database holds reaches a replica after some of the reports on later transactions,
the replica holds the same rows in the end as if it had come first, exactly if every row that was
there at first and is not reported any more after that has the same record in the end as at first.
-/
theorem Replica.rows_of_late_contents_iff {capacity : Nat} {start : Replica}
    (created : Replica.new schema registry capacity = .ok start) (earlier : List Changes)
    {first last : Upstream m} {before after : List Changes}
    (history : Upstream.History first (before ++ after) last) :
    let p := (start.populateAll earlier).1
    (∀ table id,
      (p.populateAll (before ++ first.database.contents :: after)).1.store.row? table id =
        (p.populateAll (first.database.contents :: (before ++ after))).1.store.row? table id)
      ↔ ∀ table b, registry.binding? schema table = some b →
        ∀ id, ∀ row ∈ first.database.row? table id, Changes.Silent table id after →
          b.image id (last.database.row? table id) = b.image id (some row) := by
  intro p
  have serves : p.store.Serves schema registry := serves created earlier
  simp only [store_populateAll]
  constructor
  · intro same table b bound id
    exact (Store.row?_late_contents_iff serves history bound id).mp (same table id)
  · intro unchanged table id
    cases bound : registry.binding? schema table with
    | some b =>
      exact (Store.row?_late_contents_iff serves history bound id).mpr (unchanged table b bound id)
    | none =>
      have unbound : ∀ reports b, (p.store.applyAll reports).binding table ≠ .ok b := by
        intro reports b isBound
        rw [(serves.applyAll reports).bindings table b, bound] at isBound
        cases isBound
      rw [Store.row?_of_unbound (unbound _), Store.row?_of_unbound (unbound _)]

/-- A bridge is renamed twice; its second name is reported last and stays. -/
theorem Replica.rows_of_late_contents_renamed_again :
    let first := Sample.upstream (.ofList [("1", "br0")])
    let next := Sample.upstream (.ofList [("1", "br1")])
    let last := Sample.upstream (.ofList [("1", "br2")])
    let before := [first.database.report next.database]
    let after := [next.database.report last.database]
    ∃ start, Replica.new Sample.schema Sample.registry 4 = .ok start ∧ ∀ table id,
      (start.populateAll (before ++ first.database.contents :: after)).1.store.row? table id =
        (start.populateAll (first.database.contents :: (before ++ after))).1.store.row? table
          id := by
  intro first next last before after
  obtain ⟨start, created⟩ := Sample.exists_replica
  have history : Upstream.History first (before ++ after) last :=
    .step (first.step_report next) (.step (next.step_report last) (.refl last))
  refine ⟨start, created, (rows_of_late_contents_iff created [] history).mpr ?_⟩
  intro table b bound id row present silent
  obtain ⟨rfl, rfl⟩ := Sample.binding?_eq_some bound
  obtain ⟨name, named, -⟩ := Option.map_eq_some_iff.mp
    ((Sample.row?_database (.ofList [("1", "br0")]) id).symm.trans present)
  have same : (id, name) = ("1", "br0") :=
    List.mem_singleton.mp (SortedMap.get?_eq_some_iff.mp named)
  cases same
  cases silent (next.database.report last.database) List.mem_cons_self

/-- A bridge is renamed before its first name reaches the replica: the replica takes the first name
for the current one. -/
theorem Replica.late_contents_undo_rename :
    let first := Sample.upstream (.ofList [("1", "br0")])
    let last := Sample.upstream (.ofList [("1", "br1")])
    let report := first.database.report last.database
    Upstream.History first [report] last
      ∧ ∃ start, Replica.new Sample.schema Sample.registry 4 = .ok start
        ∧ (start.populateAll [first.database.contents, report]).1.store.row? "Bridge" "1" =
          some (Sample.record "1" "br1" "")
        ∧ (start.populateAll [report, first.database.contents]).1.store.row? "Bridge" "1" =
          some (Sample.record "1" "br0" "") := by
  intro first last report
  exact ⟨.step (first.step_report last) (.refl last), _, rfl, rfl, rfl⟩

end TableReplica
