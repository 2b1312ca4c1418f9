import TableReplica.Proofs.Delivery.Queue
import TableReplica.Proofs.Replica.Soundness

/-!
# The events as a change log

Whoever keeps the events that a replica raises can do without the replica: taking them over one by
one into empty tables gives the tables of the replica, and the old record that an event shows is the
one that has been taken over for the row, if there is one (`Replica.recounts_of_logged`). One change
at a time raises one event at a time, so the argument goes along the folds that apply changes, for
the rows of a table (`StoredTable.recounts_applyRow`) and then for tables
(`Store.recounts_applyTable`).
-/

namespace TableReplica

/-! ## Taking over events -/

/-- The rows of a table with an event taken over: the new record is stored under its identifier, or
the row of the old one is removed. -/
def Binding.replay (b : Binding) (rows : SortedMap String Record) (e : Event) :
    SortedMap String Record :=
  match e.kind with
  | .add | .update => e.new.elim rows fun r => rows.insert (b.identity r) r
  | .delete => e.old.elim rows fun r => rows.erase (b.identity r)

namespace Store

/-- The store with other contents of one table. -/
def withTable (s : Store) (name : String) (t : StoredTable) : Store :=
  { s with tables := s.tables.insert name t }

/-- The store with an event taken over in the table that it is about. -/
def replay (s : Store) (e : Event) : Store :=
  match s.table? e.table with
  | none => s
  | some t => s.withTable e.table { t with rows := t.binding.replay t.rows e }

/-- The store with events taken over in order. -/
def replayAll (s : Store) (log : List Event) : Store := log.foldl replay s

/-- The old record that an event shows is the one that a store holds for the row, if it holds one.
-/
def Recalls (s : Store) (e : Event) : Prop :=
  ∀ b, s.binding e.table = .ok b →
    ∀ old ∈ e.old, ∀ held ∈ s.row? e.table (b.identity old), old = held

/-- Events lead from one store to another, and each of them shows what there was when it is taken
over. -/
inductive Recounts : Store → List Event → Store → Prop
  | nil (s : Store) : Recounts s [] s
  | cons {s last : Store} {e : Event} {rest : List Event} (recalls : s.Recalls e)
    (later : Recounts (s.replay e) rest last) : Recounts s (e :: rest) last

namespace Recounts

variable {s t u : Store} {log later : List Event}

theorem append (first : Recounts s log t) (second : Recounts t later u) :
    Recounts s (log ++ later) u := by
  induction first with
  | nil => exact second
  | cons recalls _ ih => exact .cons recalls (ih second)

theorem replayAll_eq (recounts : Recounts s log t) : s.replayAll log = t := by
  induction recounts with
  | nil => rfl
  | cons _ _ ih => exact ih

theorem recalls {before after : List Event} {e : Event}
    (recounts : Recounts s (before ++ e :: after) t) : (s.replayAll before).Recalls e := by
  induction before generalizing s with
  | nil =>
    cases recounts with
    | cons recalls _ => exact recalls
  | cons first rest ih =>
    cases recounts with
    | cons _ later => exact ih later

end Recounts

section WithTable

variable {s : Store} {name : String} {t t' : StoredTable}

theorem table?_withTable : (s.withTable name t).table? name = some t :=
  SortedMap.get?_insert_self s.tables name t

theorem withTable_withTable : (s.withTable name t).withTable name t' = s.withTable name t' := by
  rw [withTable, withTable, withTable]
  congr 1
  apply SortedMap.ext_get?
  intro other
  rw [SortedMap.get?_insert, SortedMap.get?_insert, SortedMap.get?_insert]
  split <;> rfl

theorem withTable_self (followed : s.table? name = some t) : s.withTable name t = s := by
  rw [withTable]
  congr 1
  apply SortedMap.ext_get?
  intro other
  rw [SortedMap.get?_insert]
  split
  next same => rw [same, ← followed, table?]
  next => rfl

end WithTable

end Store

/-! ## Applying changes -/

/-- If every step of applying changes recounts what it does, so do all of them together. -/
theorem Store.recounts_foldl {σ α : Type} (embed : σ → Store) (kept : σ → Prop)
    (step : Applied σ → α → Applied σ)
    (single : ∀ a x, kept a.state → kept (step a x).state ∧ ∃ told,
      (step a x).events = a.events ++ told
        ∧ (embed a.state).Recounts told (embed (step a x).state))
    (l : List α) {a : Applied σ} (start : kept a.state) : ∃ told,
      (l.foldl step a).events = a.events ++ told
        ∧ (embed a.state).Recounts told (embed (l.foldl step a).state) := by
  induction l generalizing a with
  | nil => exact ⟨[], (List.append_nil _).symm, .nil _⟩
  | cons x rest ih =>
    obtain ⟨keeps, told, events, recounts⟩ := single a x start
    obtain ⟨later, events', recounts'⟩ := ih keeps
    refine ⟨told ++ later, ?_, recounts.append recounts'⟩
    rw [List.foldl_cons, events', events, List.append_assoc]

namespace StoredTable

/-- What an effect puts into a table is what taking over its event puts there. -/
theorem replay_eq_put {b : Binding} {id : String} {rows : SortedMap String Record}
    (represented : ∀ r ∈ rows.get? id, b.Represents id r) {e : Effect}
    (does : b.Does id (rows.get? id) e) : b.replay rows e.event = put rows id e.record := by
  obtain ⟨after, before⟩ := does.represents represented
  cases does with
  | add made =>
    change rows.insert (b.identity _) _ = rows.insert id _
    rw [(after _ rfl).identified]
  | update _ made =>
    change rows.insert (b.identity _) _ = rows.insert id _
    rw [(after _ rfl).identified]
  | delete found =>
    change rows.erase (b.identity _) = rows.erase id
    rw [(before _ rfl).identified]

/-- The old record of an event is the known one, if there is one. -/
theorem old_eq_known {b : Binding} {id : String} {known : Option Record} {e : Effect}
    (does : b.Does id known e) : ∀ old ∈ e.event.old, ∀ held ∈ known, old = held := by
  rintro old shown held rfl
  cases does with
  | add _ => cases shown
  | update before _ =>
    cases shown
    cases before
    rfl
  | delete before =>
    cases shown
    cases before
    rfl

/-- With the change of a row, the table and the events go on alike. -/
theorem recounts_applyRow (s : Store) {a : Applied StoredTable} (sound : a.state.Sound)
    (id : String) (c : RowChange) : ∃ told, (applyRow a id c).events = a.events ++ told
      ∧ (s.withTable a.state.binding.table a.state).Recounts told
        (s.withTable a.state.binding.table (applyRow a id c).state) := by
  rw [applyRow]
  split
  next effect outcome =>
    have does := Binding.effect?_cases outcome
    -- The event is about this very table and row, whatever identifier the data of the row contain.
    have about : effect.event.table = a.state.binding.table := by
      cases does <;> rfl
    have held : (s.withTable a.state.binding.table a.state).table? effect.event.table =
        some a.state := by
      rw [about]
      exact Store.table?_withTable
    refine ⟨[effect.event], rfl, .cons ?_ ?_⟩
    · intro b bound old shown known found
      rw [Store.binding, held] at bound
      cases bound
      rw [Store.row?, held, Option.bind_some, ((does.represents (sound id)).2 old shown).identified]
        at found
      exact old_eq_known does old shown known found
    · rw [Store.replay, held, about]
      simp only [Store.withTable_withTable, replay_eq_put (sound id) does]
      exact .nil _
  next => exact ⟨[], (List.append_nil _).symm, .nil _⟩
  next => exact ⟨[], (List.append_nil _).symm, .nil _⟩

theorem recounts_apply (s : Store) {t : StoredTable} (sound : t.Sound) (changes : TableChanges) :
    (s.withTable t.binding.table t).Recounts (t.apply changes).events
      (s.withTable t.binding.table (t.apply changes).state) := by
  obtain ⟨told, events, recounts⟩ := Store.recounts_foldl (s.withTable t.binding.table)
    (fun t' => t'.Sound ∧ t'.binding.table = t.binding.table)
    (fun a e => applyRow a e.1 e.2) (fun a e kept => by
      have next := recounts_applyRow s kept.1 e.1 e.2
      rw [kept.2] at next
      exact ⟨⟨kept.1.applyRow e.1 e.2, by rw [binding_applyRow, kept.2]⟩, next⟩)
    changes.toList (a := { state := t }) ⟨sound, rfl⟩
  have events' : (t.apply changes).events = told := events
  rw [events']
  exact recounts

end StoredTable

namespace Store

theorem recounts_applyTable {a : Applied Store} (sound : a.state.Sound) (name : String)
    (changes : TableChanges) : ∃ told, (applyTable a name changes).events = a.events ++ told
      ∧ a.state.Recounts told (applyTable a name changes).state := by
  rw [applyTable]
  cases followed : a.state.table? name with
  | none => exact ⟨[], (List.append_nil _).symm, .nil _⟩
  | some t =>
    have recounts := StoredTable.recounts_apply a.state (sound.tables name t followed) changes
    rw [sound.named name t followed, withTable_self followed] at recounts
    exact ⟨_, rfl, recounts⟩

/-- The events of changes tell what the changes do. -/
theorem recounts_apply {s : Store} (sound : s.Sound) (changes : Changes) :
    s.Recounts (s.apply changes).events (s.apply changes).state := by
  obtain ⟨told, events, recounts⟩ := recounts_foldl id Sound (fun a e => applyTable a e.1 e.2)
    (fun _ e kept => ⟨kept.applyTable e.1 e.2, recounts_applyTable kept e.1 e.2⟩)
    changes.toList (a := { state := s }) sound
  have events' : (s.apply changes).events = told := events
  rw [events']
  exact recounts

end Store

/-! ## Runs -/

namespace Store

/-- What the change of a row leads to, if it is a change of a table that is followed, says anything
and can be applied. -/
def effectOf (s : Store) (d : Delta) : Option Effect :=
  (s.table? d.table).bind fun t =>
    (t.binding.effect? d.row (t.rows.get? d.row) d.change).toOption.join

theorem eventOf_eq_map_effectOf (s : Store) (d : Delta) :
    s.eventOf d = (s.effectOf d).map Effect.event := by
  rw [eventOf, effectOf]
  cases s.table? d.table with
  | none => rfl
  | some t =>
    rw [Option.bind_some, Option.bind_some, Binding.eventOf]
    rcases t.binding.effect? d.row (t.rows.get? d.row) d.change with _ | _ | _ <;> rfl

/-- A change that leads to something decides what becomes of its row, and any other change leaves
the row as it is. -/
theorem row?_apply_of_mem_deltas (s : Store) {changes : Changes} {d : Delta}
    (member : d ∈ changes.deltas) : (s.apply changes).state.row? d.table d.row =
      (s.effectOf d).elim (s.row? d.table d.row) Effect.record := by
  rw [effectOf]
  cases followed : s.table? d.table with
  | none =>
    have unbound : ∀ b, s.binding d.table ≠ .ok b := by
      intro b bound
      obtain ⟨t, present, -⟩ := binding_eq_ok_iff.mp bound
      rw [followed] at present
      cases present
    rw [row?_of_unbound (by simpa using unbound), row?_of_unbound unbound]
    rfl
  | some t =>
    rw [row?_apply (binding_eq_ok_iff.mpr ⟨t, followed, rfl⟩), Changes.mem_deltas_iff.mp member,
      row?, followed, Option.bind_some, Option.bind_some, Binding.follow, Binding.recordAfter]
    rcases t.binding.effect? d.row (t.rows.get? d.row) d.change with _ | _ | _ <;> rfl

end Store

/-- A replica that started from another one, and the events that have been queued on the way.
Reports may come at any time as long as the loop has not ended, and never fill the queue; meanwhile
events may be delivered and observers may come and go. -/
inductive Replica.Logged (start : Replica) : List Event → Replica → Prop
  | new : Logged start [] start
  | populate {log added : List Event} {p : Replica} (logged : Logged start log p)
    (changes : Changes) (listening : p.delivery.queue.phase ≠ .finished)
    (room : (p.populate changes).1.delivery.queue.waiting.length < p.delivery.queue.capacity)
    (queued : (p.populate changes).1.delivery.queue.waiting = p.delivery.queue.waiting ++ added) :
    Logged start (log ++ added) (p.populate changes).1
  | meanwhile {log : List Event} {p : Replica} (logged : Logged start log p) (delivery : Delivery) :
    Logged start log { p with delivery }

namespace Replica

/-- A call whose events do not fill the queue has all of them queued. -/
theorem waiting_populate {p : Replica} {changes : Changes}
    (listening : p.delivery.queue.phase ≠ .finished)
    (room : (p.populate changes).1.delivery.queue.waiting.length < p.delivery.queue.capacity) :
    (p.populate changes).1.delivery.queue.waiting =
      p.delivery.queue.waiting ++ (p.store.apply changes).events :=
  Queue.waiting_postAll_of_room listening room

theorem recounts_of_logged {start p : Replica} {log : List Event} (sound : start.store.Sound)
    (logged : start.Logged log p) : start.store.Recounts log p.store ∧ p.store.Sound := by
  induction logged with
  | new => exact ⟨.nil _, sound⟩
  | @populate log added p logged changes listening room queued ih =>
    rw [waiting_populate listening room] at queued
    have told : (p.store.apply changes).events = added := List.append_cancel_left queued
    rw [← told]
    exact ⟨ih.1.append (Store.recounts_apply ih.2 changes), ih.2.apply changes⟩
  | meanwhile _ _ ih => exact ih

/-- As long as its queue does not fill, the events of a replica are a complete log of it. A report
queues one event for each change that is applied, in their order, and none for any other; taking
over all events in order into the tables of the new replica, which are empty, gives the tables as
they are; and whenever an event shows an old record while a record has been taken over for the row,
the two are the same. -/
theorem log_complete {schema : Schema} {registry : Registry} {capacity : Nat} {start p : Replica}
    {log : List Event} (created : Replica.new schema registry capacity = .ok start)
    (logged : start.Logged log p) :
    (∀ changes, p.delivery.queue.phase ≠ .finished →
      (p.populate changes).1.delivery.queue.waiting.length < p.delivery.queue.capacity →
      (p.populate changes).1.delivery.queue.waiting = p.delivery.queue.waiting
          ++ changes.deltas.filterMap (fun d => (p.store.effectOf d).map Effect.event)
        ∧ ∀ d ∈ changes.deltas, (p.populate changes).1.store.row? d.table d.row =
          (p.store.effectOf d).elim (p.store.row? d.table d.row) Effect.record)
      ∧ (∀ table id, start.store.row? table id = none) ∧ start.store.replayAll log = p.store
      ∧ ∀ before e after, log = before ++ e :: after →
        (start.store.replayAll before).Recalls e := by
  have made := (new_eq_ok_iff.mp created).1
  have recounts := (recounts_of_logged (Store.sound_new made) logged).1
  refine ⟨fun changes listening room => ⟨?_, ?_⟩, Store.row?_new made, recounts.replayAll_eq, ?_⟩
  · rw [waiting_populate listening room, Store.events_apply]
    simp only [← Store.eventOf_eq_map_effectOf]
  · exact fun d member => p.store.row?_apply_of_mem_deltas member
  · rintro before e after rfl
    exact recounts.recalls

/-- A bridge appears, is renamed while the row of another one cannot be decoded, and disappears. -/
theorem log_complete_bridge :
    let reports : List Changes := [
      .ofList [("Bridge", .ofList [("1", .insert (Sample.row "br0"))])],
      .ofList [("Bridge", .ofList [("1", .modify (Sample.row "br0") (Sample.row "br1")),
        ("2", .insert (.ofList [("name", .atom (.boolean true))]))])],
      .ofList [("Bridge", .ofList [("1", .delete (Sample.row "br1"))])]]
    let log : List Event := [.add "Bridge" (Sample.record "1" "br0" ""),
      .update "Bridge" (Sample.record "1" "br0" "") (Sample.record "1" "br1" ""),
      .delete "Bridge" (Sample.record "1" "br1" "")]
    ∃ start, Replica.new Sample.schema Sample.registry 4 = .ok start
      ∧ start.Logged log (start.populateAll reports).1
      ∧ start.store.replayAll log = (start.populateAll reports).1.store := by
  intro reports log
  obtain ⟨start, created, logged⟩ : ∃ start, Replica.new Sample.schema Sample.registry 4 = .ok start
      ∧ start.Logged log (start.populateAll reports).1 := by
    refine ⟨_, rfl, ?_⟩
    refine @Logged.populate _ [_, _] [_] _ ?_ _ (by decide) (by decide) rfl
    refine @Logged.populate _ [_] [_] _ ?_ _ (by decide) (by decide) rfl
    exact @Logged.populate _ [] [_] _ .new _ (by decide) (by decide) rfl
  exact ⟨start, created, logged, (log_complete created logged).2.2.1⟩

end Replica

end TableReplica
