import TableReplica.Proofs.Session.Schedule
import TableReplica.Proofs.Session.Transact

/-!
# Taking messages in

However the actions of a schedule are interleaved, the messages of the server are taken in one after
the other, in the order of their arrival (`SharedSession.ingestion_folds`). The rows are what the
proper reports make of them, together with what monitors have reported at first; everybody who
listens is told of each proper report when it has been applied, and each sign of life that is asked
for is given. A report that is not a proper one does nothing but leave the stream.

Two things are kept along a schedule: the store follows the changes in the log (`Moves.store`), and
what has arrived is what has been taken in followed by what waits (`Moves.ingests`).
-/

namespace TableReplica

namespace SharedSession

variable {σ : Type} {s next : SharedSession σ} {o : SessionOccurrence}

/-! ## The rows -/

theorem store_into (m : Message) (s : Session σ) :
    (m.into s).replica.store = s.replica.store.applyAll m.changes?.toList := by
  rw [Message.into]
  cases m.changes? with
  | none => rfl
  | some changes => rfl

theorem store_receive (s : Session σ) (answer : Except LinkFault Json) (q : Request) :
    (s.receive answer q).1.replica.store =
      s.replica.store.applyAll (q.contents? answer).toList := by
  rw [Session.receive_fst]
  cases q.contents? answer with
  | none => rfl
  | some changes => rfl

/-- The store follows the changes that monitors report. -/
theorem Moves.store (moves : Moves s next o) :
    next.session.replica.store = s.session.replica.store.applyAll o.changes?.toList := by
  cases moves with
  | idle spares => exact spares.store
  | calls _ spares => exact spares.store
  | refuses fault => rfl
  | arrives _ m => rfl
  | answers q answer pending => exact store_receive s.session answer q
  | @takes m _ _ _ _ _ => exact store_into m s.session
  | ends _ stream => rfl

/-! ## The stream -/

/-- The messages are accounted for: what has been taken in arrived in this order, and what has
arrived since waits, as long as the loop has not ended. -/
structure Ingests (s : SharedSession σ) (arrived taken : List Message) : Prop where
  inOrder : taken <+: arrived
  remaining : s.ended = false → arrived = taken ++ s.stream

theorem Ingests.append_nil {arrived taken : List Message} (ingests : s.Ingests arrived taken) :
    s.Ingests (arrived ++ []) (taken ++ []) := by
  rw [List.append_nil, List.append_nil]
  exact ingests

theorem Spares.ingests (spares : s.Spares next) {arrived taken : List Message}
    (ingests : s.Ingests arrived taken) : next.Ingests arrived taken := by
  refine ⟨ingests.inOrder, fun running => ?_⟩
  rw [spares.stream]
  exact ingests.remaining (spares.ended ▸ running)

/-- Messages are taken from the beginning of the stream, and put at its end. -/
theorem Moves.ingests (moves : Moves s next o) {arrived taken : List Message}
    (ingests : s.Ingests arrived taken) :
    next.Ingests (arrived ++ o.arrived?.toList) (taken ++ o.taken?.toList) := by
  cases moves with
  | idle spares => exact (spares.ingests ingests).append_nil
  | calls _ spares => exact (spares.ingests ingests).append_nil
  | refuses fault => exact ingests.append_nil
  | answers q answer pending => exact Ingests.append_nil ⟨ingests.inOrder, ingests.remaining⟩
  | ends _ stream => exact Ingests.append_nil ⟨ingests.inOrder, nofun⟩
  | arrives running m =>
    change Ingests _ (arrived ++ [m]) (taken ++ [])
    rw [List.append_nil]
    refine ⟨ingests.inOrder.trans (List.prefix_append arrived [m]), fun _ => ?_⟩
    rw [ingests.remaining running, List.append_assoc]
  | @takes m rest running _ waits _ =>
    change Ingests _ (arrived ++ []) (taken ++ [m])
    have next : arrived = taken ++ [m] ++ rest := by
      rw [ingests.remaining running, waits, List.append_assoc]
      rfl
    rw [List.append_nil]
    exact ⟨next ▸ List.prefix_append (taken ++ [m]) rest, fun _ => next⟩

/-- What the server gets back depends on the messages that are taken in alone. -/
theorem Moves.reply?_eq (moves : Moves s next o) : o.reply? = o.taken?.bind Message.reply? := by
  cases moves with
  | takes => rfl
  | idle | calls | refuses | arrives | answers | ends => rfl

/-- Only the first message that waits is taken in. -/
theorem Moves.of_taken {m : Message} {notified : List Notified} {reply : Option (List Json)}
    (moves : Moves s next (.taken m notified reply)) :
    ∃ rest, s.ended = false ∧ s.session.connected = true ∧ s.stream = m :: rest
      ∧ next = s.past m rest
      ∧ notified = m.notified (m.into s.session).replica.store s.session.listeners
      ∧ reply = m.reply? := by
  cases moves with
  | takes running connected waits _ => exact ⟨_, running, connected, waits, rfl, rfl, rfl⟩

/-- A message of which nobody is to be told does nothing to a session. -/
theorem into_of_notice? {m : Message} (nothing : m.notice? = none) (s : Session σ) :
    m.into s = s := by
  rw [Message.into, Message.changes?, nothing]
  rfl

/-! ## Schedules -/

variable [Link σ]

theorem store_after (s : SharedSession σ) (actions : List SessionAction) :
    (s.after actions).session.replica.store = s.session.replica.store.applyAll
      ((s.log actions).filterMap SessionOccurrence.changes?) := by
  induction actions generalizing s with
  | nil => rfl
  | cons a rest ih =>
    rw [filterMap_log_cons, Store.applyAll, List.foldl_append]
    refine (ih (s.step a).1).trans ?_
    rw [(s.moves_step a).store]
    rfl

theorem ingests_after {arrived taken : List Message} (ingests : s.Ingests arrived taken)
    (actions : List SessionAction) : (s.after actions).Ingests
      (arrived ++ (s.log actions).filterMap SessionOccurrence.arrived?)
      (taken ++ (s.log actions).filterMap SessionOccurrence.taken?) := by
  induction actions generalizing s arrived taken with
  | nil => exact ingests.append_nil
  | cons a rest ih =>
    rw [filterMap_log_cons, filterMap_log_cons, ← List.append_assoc, ← List.append_assoc]
    exact ih ((s.moves_step a).ingests ingests)

theorem replies_log (s : SharedSession σ) (actions : List SessionAction) :
    (s.log actions).filterMap SessionOccurrence.reply? =
      ((s.log actions).filterMap SessionOccurrence.taken?).filterMap Message.reply? := by
  induction actions generalizing s with
  | nil => rfl
  | cons a rest ih =>
    rw [filterMap_log_cons, filterMap_log_cons, List.filterMap_append, ← ih,
      (s.moves_step a).reply?_eq]
    cases (s.step a).2.taken? with
    | none => rfl
    | some m => cases replied : m.reply? <;> simp [replied]

/-- The loop takes in as many messages as it is given turns. -/
theorem turns_of_waiting (running : s.ended = false) (connected : s.session.connected = true)
    {ms rest : List Message} (waits : s.stream = ms ++ rest) (present : .gone ∉ ms) :
    let turns := List.replicate ms.length SessionAction.turn
    (s.after turns).ended = false ∧ (s.after turns).session.connected = true
      ∧ (s.after turns).stream = rest
      ∧ (s.log turns).filterMap SessionOccurrence.taken? = ms
      ∧ (s.after turns).session.replica =
        (s.session.replica.populateAll (ms.filterMap Message.changes?)).1 := by
  induction ms generalizing s with
  | nil => exact ⟨running, connected, waits, rfl, rfl⟩
  | cons m ms ih =>
    rw [List.mem_cons, not_or] at present
    have turned := turn_of_waiting running connected waits (Ne.symm present.1)
    have first : (s.step .turn).1 = s.past m (ms ++ rest) := congrArg Prod.fst turned
    obtain ⟨running', connected', left, taken, rows⟩ :=
      @ih (s.past m (ms ++ rest)) running connected rfl present.2
    simp only [List.length_cons, List.replicate_succ, after_cons, filterMap_log_cons, first]
    refine ⟨running', connected', left, ?_, ?_⟩
    · rw [taken]
      change s.turn.2.taken?.toList ++ ms = _
      rw [turned]
      rfl
    · rw [rows, List.filterMap_cons]
      change ((m.into s.session).replica.populateAll _).1 = _
      rw [Message.into]
      cases m.changes? with
      | none => rfl
      | some changes => rfl

/-- Whatever is done to a session, and in whatever order: the rows are what the changes make of them
that are reported, those of proper reports that are taken in and those that answer a monitor; the
messages that are taken in are the first ones that have arrived, in the order of their arrival, and
as long as the loop has not ended the others wait; the server gets back the arguments of each
request for a sign of life, in this order. A message that is taken in is the first one that waits.
If it is a proper report, it is applied as far as possible, and then everybody who listens is told
of it; if it is an improper one, the session stays as it is; either way the loop goes on. As long as
there are messages other than the loss of the connection, there is one taken in with each turn. -/
theorem ingestion_folds (session : Session σ) (actions : List SessionAction) :
    let start : SharedSession σ := { session }
    let s := start.after actions
    let log := start.log actions
    let arrived := log.filterMap SessionOccurrence.arrived?
    let taken := log.filterMap SessionOccurrence.taken?
    s.session.replica.store =
        (session.replica.populateAll (log.filterMap SessionOccurrence.changes?)).1.store
      ∧ taken <+: arrived ∧ (s.ended = false → arrived = taken ++ s.stream)
      ∧ log.filterMap SessionOccurrence.reply? = taken.filterMap Message.reply?
      ∧ (∀ a m notified reply, (s.step a).2 = .taken m notified reply →
        let next := (s.step a).1
        s.stream = m :: next.stream ∧ next.ended = false ∧ next.session.connected = true
          ∧ next.session.replica = m.changes?.elim s.session.replica
            (fun changes => (s.session.replica.populate changes).1)
          ∧ notified = m.notified next.session.replica.store s.session.listeners
          ∧ reply = m.reply?
          ∧ (m.notice? = none → next.session = s.session))
      ∧ (∀ ms rest, s.ended = false → s.session.connected = true → s.stream = ms ++ rest →
        .gone ∉ ms →
        let turns := List.replicate ms.length SessionAction.turn
        (s.after turns).ended = false ∧ (s.after turns).session.connected = true
          ∧ (s.after turns).stream = rest
          ∧ (s.log turns).filterMap SessionOccurrence.taken? = ms
          ∧ (s.after turns).session.replica =
            (s.session.replica.populateAll (ms.filterMap Message.changes?)).1)
      ∧ ∀ params n, (Message.report params).notice? = some n ↔ ∃ context value rest changes,
        params = .array (context :: value :: rest) ∧ Changes.read value = .ok changes
          ∧ n = .update context changes := by
  intro start s log arrived taken
  have fresh : start.Ingests [] [] := ⟨List.prefix_rfl, fun _ => rfl⟩
  have ingests : s.Ingests arrived taken := ingests_after fresh actions
  refine ⟨?_, ingests.inOrder, ingests.remaining, replies_log start actions, ?_, ?_, ?_⟩
  · rw [Replica.store_populateAll]
    exact store_after start actions
  · intro a m notified reply takes next
    have moves : Moves s next (.taken m notified reply) := takes ▸ s.moves_step a
    obtain ⟨rest, running, connected, waits, past, told, replied⟩ := moves.of_taken
    rw [past]
    exact ⟨waits, running, connected, rfl, told, replied,
      fun nothing => into_of_notice? nothing s.session⟩
  · exact fun ms rest running connected waits present =>
      turns_of_waiting running connected waits present
  · exact fun params n => Notice.ofReport?_eq_some_iff

end SharedSession

/-! ## An example -/

namespace Sample

/-- The report that there is a bridge with some name, and something more that nobody reads. -/
def sighting (name : String) : Message :=
  let bridge := Json.object [("new", .object [("name", .string name)])]
  .report (.array [.string "bridges", .object [("Bridge", .object [("1", bridge)])], .null])

/-- A bridge is reported before and after a report without changes and a request for a sign of
life. -/
def messages : List Message :=
  [sighting "br0", .report (.array [.string "bridges"]), .echo [.string "ping"], sighting "br1"]

/-- Somebody who listens to reports and fails when there is one. -/
def listener : Script NoticeKind := { name := "listener", hears := [.update], fails := [.update] }

/-- The messages arrive while somebody listens. -/
def arrivals : List SessionAction := .register listener :: messages.map .arrive

end Sample

/-- All messages are taken in, and of the two bridges that are reported the listener finds the first
one when it is told of it. -/
theorem SharedSession.ingestion_folds_sightings :
    ∃ replica, Replica.new Sample.schema Sample.registry 4 = .ok replica
      ∧ let s := SharedSession.after { session := Sample.session replica } Sample.arrivals
        let turns := List.replicate 4 SessionAction.turn
        (s.log turns).filterMap SessionOccurrence.taken? = Sample.messages
          ∧ (s.log turns).filterMap SessionOccurrence.reply? = [[.string "ping"]]
          ∧ ((s.log turns).flatMap SessionOccurrence.told).map
              (fun n => (n.call, n.found.row? "Bridge" "1")) =
            [(⟨"listener", true⟩, some (Sample.record "1" "br0" "")),
              (⟨"listener", true⟩, some (Sample.record "1" "br1" ""))]
          ∧ (s.after turns).session.replica.store.row? "Bridge" "1" =
            some (Sample.record "1" "br1" "") := by
  obtain ⟨replica, created⟩ := Sample.exists_replica
  obtain ⟨-, -, -, -, -, progress, -⟩ :=
    SharedSession.ingestion_folds (Sample.session replica) Sample.arrivals
  cases created
  refine ⟨_, rfl, ?_⟩
  have present : Message.gone ∉ Sample.messages := by simp [Sample.messages, Sample.sighting]
  obtain ⟨-, -, -, taken, -⟩ := progress Sample.messages [] rfl rfl rfl present
  exact ⟨taken, rfl, rfl, rfl⟩

end TableReplica
