import TableReplica.Proofs.Session.Ingestion

/-!
# The end of a session

A session is over when its flag is lowered, whoever does it: nothing is asked of the server any
more, and what still waits in the stream is lost. The loop that takes messages in ends with its next
turn, and it tells everybody who listens then; this is the last thing that anybody is told
(`SharedSession.lifecycle_safe`).

The flag is never raised again (`Moves.disconnected`), and the loop does not come to life again
(`Moves.ended`). Both carry over to schedules, and so does that nobody has been told of the end
while the loop has not ended (`Moves.running`).
-/

namespace TableReplica

/-- What can still come of an action when the flag has been lowered: nothing is sent to the server
and no message is taken in, and all that listeners are told is that this is the end. -/
structure SessionOccurrence.Late (o : SessionOccurrence) : Prop where
  called : o.called? = none
  taken : o.taken? = none
  reply : o.reply? = none
  told : ∀ n ∈ o.told, n.notice = .disconnected

theorem SessionOccurrence.Late.of_silent {o : SessionOccurrence} (called : o.called? = none)
    (taken : o.taken? = none) (reply : o.reply? = none) (told : o.told = []) : o.Late := by
  refine ⟨called, taken, reply, ?_⟩
  rw [told]
  exact List.forall_mem_nil _

theorem SessionOccurrence.Late.changes?_eq {o : SessionOccurrence} (late : o.Late) :
    o.changes? = o.loaded? := by
  have untaken := late.taken
  cases o with
  | taken => cases untaken
  | quiet | arrived | called | refused | answered | ended => rfl

theorem Message.notice_of_notified {m : Message} {found : Store} {r : Roster NoticeKind}
    {n : Notified} (told : n ∈ m.notified found r) : m.notice? = some n.notice := by
  unfold notified at told
  split at told
  next notice noticed =>
    obtain ⟨call, -, rfl⟩ := List.mem_map.mp told
    exact noticed
  next => cases told

theorem Message.notice?_ne_disconnected (m : Message) : m.notice? ≠ some .disconnected := by
  cases m with
  | report params =>
    intro noticed
    obtain ⟨context, value, rest, changes, -, -, same⟩ := Notice.ofReport?_eq_some_iff.mp noticed
    cases same
  | echo args => nofun
  | gone => nofun

namespace SharedSession

variable {σ : Type} {s next : SharedSession σ} {o : SessionOccurrence}

/-! ## Steps -/

/-- The flag stays down, and little can come of what is done. -/
theorem Moves.disconnected (moves : Moves s next o) (disconnected : s.session.connected = false) :
    next.session.connected = false ∧ o.Late := by
  cases moves with
  | idle spares =>
    refine ⟨?_, .of_silent rfl rfl rfl rfl⟩
    refine eq_false_of_ne_true fun connected => ?_
    rw [spares.connected connected] at disconnected
    cases disconnected
  | calls connected _ =>
    rw [connected] at disconnected
    cases disconnected
  | refuses fault => exact ⟨disconnected, .of_silent rfl rfl rfl rfl⟩
  | arrives _ m => exact ⟨disconnected, .of_silent rfl rfl rfl rfl⟩
  | answers q answer pending =>
    refine ⟨?_, .of_silent rfl rfl rfl rfl⟩
    rw [Session.receive_fst]
    exact disconnected
  | takes _ connected _ _ =>
    rw [connected] at disconnected
    cases disconnected
  | ends _ stream =>
    refine ⟨rfl, rfl, rfl, rfl, fun n told => ?_⟩
    obtain ⟨call, -, rfl⟩ := List.mem_map.mp told
    rfl

/-- When the loop has ended, nobody is told anything. -/
theorem Moves.ended (moves : Moves s next o) (ended : s.ended = true) :
    next.ended = true ∧ o.told = [] := by
  cases moves with
  | idle spares => exact ⟨spares.ended.trans ended, rfl⟩
  | calls _ spares => exact ⟨spares.ended.trans ended, rfl⟩
  | refuses fault => exact ⟨ended, rfl⟩
  | answers q answer pending => exact ⟨ended, rfl⟩
  | arrives running m =>
    rw [running] at ended
    cases ended
  | takes running _ _ _ =>
    rw [running] at ended
    cases ended
  | ends running stream =>
    rw [running] at ended
    cases ended

/-- As long as the loop has not ended, nobody is told of the end. -/
theorem Moves.running (moves : Moves s next o) (running : next.ended = false) :
    s.ended = false ∧ ∀ n ∈ o.told, n.notice ≠ .disconnected := by
  cases moves with
  | idle spares => exact ⟨spares.ended.symm.trans running, List.forall_mem_nil _⟩
  | calls _ spares => exact ⟨spares.ended.symm.trans running, List.forall_mem_nil _⟩
  | refuses fault => exact ⟨running, List.forall_mem_nil _⟩
  | answers q answer pending => exact ⟨running, List.forall_mem_nil _⟩
  | arrives running m => exact ⟨running, List.forall_mem_nil _⟩
  | ends _ stream => cases running
  | @takes m _ running _ _ _ =>
    refine ⟨running, fun n told last => ?_⟩
    have noticed := Message.notice_of_notified told
    rw [last] at noticed
    exact m.notice?_ne_disconnected noticed

/-- The loop ends by telling everybody who listens. -/
theorem Moves.of_ended {notified : List Notified} (moves : Moves s next (.ended notified)) :
    s.ended = false ∧ next.ended = true ∧ next.session.connected = false
      ∧ notified = s.farewell := by
  cases moves with
  | ends running stream => exact ⟨running, rfl, rfl, rfl⟩

/-- The loop does not end without saying so. -/
theorem Moves.ended_cases (moves : Moves s next o) :
    next.ended = s.ended ∨ ∃ notified, o = .ended notified := by
  cases moves with
  | idle spares => exact .inl spares.ended
  | calls _ spares => exact .inl spares.ended
  | refuses | arrives | answers | takes => exact .inl rfl
  | ends _ stream => exact .inr ⟨_, rfl⟩

/-! ## Schedules -/

variable [Link σ]

theorem late_after (disconnected : s.session.connected = false) (actions : List SessionAction) :
    (s.after actions).session.connected = false ∧ ∀ o ∈ s.log actions, o.Late :=
  kept_after (fun s => s.session.connected = false) SessionOccurrence.Late Moves.disconnected
    disconnected actions

/-- Once the flag is down, rows change only when an answer to a monitor is still to come. -/
theorem store_of_disconnected (disconnected : s.session.connected = false)
    (actions : List SessionAction) :
    (s.after actions).session.replica.store = s.session.replica.store.applyAll
      ((s.log actions).filterMap SessionOccurrence.loaded?) := by
  have loaded : (s.log actions).filterMap SessionOccurrence.changes? =
      (s.log actions).filterMap SessionOccurrence.loaded? :=
    List.filterMap_congr fun o member => ((late_after disconnected actions).2 o member).changes?_eq
  rw [store_after, loaded]

theorem told_of_ended (ended : s.ended = true) (actions : List SessionAction) :
    ∀ o ∈ s.log actions, o.told = [] :=
  (kept_after (fun s => s.ended = true) (fun o => o.told = []) Moves.ended ended actions).2

theorem told_of_running {actions : List SessionAction} (running : (s.after actions).ended = false) :
    ∀ o ∈ s.log actions, ∀ n ∈ o.told, n.notice ≠ .disconnected := by
  suffices kept : s.ended = false ∧ ∀ o ∈ s.log actions, ∀ n ∈ o.told, n.notice ≠ .disconnected
    from kept.2
  induction actions generalizing s with
  | nil => exact ⟨running, List.forall_mem_nil _⟩
  | cons a rest ih =>
    obtain ⟨running', others⟩ := ih running
    obtain ⟨before, first⟩ := (s.moves_step a).running running'
    exact ⟨before, List.forall_mem_cons.mpr ⟨first, others⟩⟩

/-- A loop that has ended has said so, and the flag is down. -/
theorem of_ended_after (running : s.ended = false) {actions : List SessionAction}
    (ended : (s.after actions).ended = true) :
    (s.after actions).session.connected = false
      ∧ ∃ notified, .ended notified ∈ s.log actions := by
  induction actions generalizing s with
  | nil => exact absurd (running.symm.trans ended) Bool.false_ne_true
  | cons a rest ih =>
    cases stage : (s.step a).1.ended with
    | false =>
      obtain ⟨disconnected, notified, said⟩ := ih stage ended
      exact ⟨disconnected, notified, List.mem_cons_of_mem _ said⟩
    | true =>
      have moves := s.moves_step a
      rcases moves.ended_cases with same | ⟨notified, ends⟩
      · exact absurd (running.symm.trans (same.symm.trans stage)) Bool.false_ne_true
      · rw [ends] at moves
        obtain ⟨-, -, disconnected, -⟩ := moves.of_ended
        exact ⟨(late_after disconnected rest).1, notified, ends ▸ List.mem_cons_self⟩

/-- Whatever is done to a session, and in whatever order. Once the flag is down, it stays down;
every request is refused and makes no call, no message is taken in any more, and rows change only as
monitors are answered that had been asked for before. The loop ends in the turn that follows, or
when it learns that the connection is lost, which lowers the flag. In this turn everybody who
listens then is told of the end, once for each registration; nobody has been told of it before, and
nobody is told anything afterwards. -/
theorem lifecycle_safe (session : Session σ) (actions : List SessionAction) :
    let start : SharedSession σ := { session }
    let s := start.after actions
    (s.session.connected = false → ∀ later,
        let last := s.after later
        last.session.connected = false
          ∧ (∀ q, last.step (.request q) = (last, .refused .disconnected))
          ∧ (∀ o ∈ s.log later, o.Late)
          ∧ last.session.replica.store = (s.session.replica.populateAll
            ((s.log later).filterMap SessionOccurrence.loaded?)).1.store)
      ∧ (s.ended = false → s.session.connected = false →
        s.step .turn = (s.finished s.stream, .ended s.farewell))
      ∧ (∀ rest, s.ended = false → s.session.connected = true → s.stream = .gone :: rest →
        s.step .turn = (s.finished rest, .ended s.farewell))
      ∧ (s.ended = false → s.session.connected = true → s.stream = [] → s.exhausted = true →
        s.step .turn = (s.finished [], .ended s.farewell))
      ∧ (s.ended = true → s.session.connected = false
        ∧ ∃ notified, .ended notified ∈ start.log actions)
      ∧ ∀ a notified, (s.step a).2 = .ended notified →
        (s.step a).1.session.connected = false
          ∧ notified = (s.session.listeners.callsFor .disconnected).map
            (⟨·, .disconnected, s.session.replica.store⟩)
          ∧ (∀ o ∈ start.log actions, ∀ n ∈ o.told, n.notice ≠ .disconnected)
          ∧ ∀ later, ∀ o ∈ (s.step a).1.log later, o.told = [] := by
  intro start s
  refine ⟨fun disconnected later => ?_, turn_of_disconnected,
    fun rest running connected waits => turn_of_gone running connected waits, turn_of_exhausted,
    fun ended => of_ended_after rfl ended, ?_⟩
  · intro last
    obtain ⟨down, late⟩ := late_after disconnected later
    refine ⟨down, fun q => ?_, late, ?_⟩
    · change last.request q = _
      rw [request, Session.callFor_of_disconnected down]
    · rw [Replica.store_populateAll]
      exact store_of_disconnected disconnected later
  · intro a notified ends
    have moves : Moves s (s.step a).1 (.ended notified) := ends ▸ s.moves_step a
    obtain ⟨running, ended, disconnected, told⟩ := moves.of_ended
    exact ⟨disconnected, told, told_of_running running, told_of_ended ended⟩

end SharedSession

/-! ## An example -/

namespace Sample

/-- Somebody who listens to reports and to the end. -/
def mourner : Script NoticeKind := { name := "mourner", hears := [.update, .disconnected] }

/-- The mourner is registered twice. Of two reports that arrive one is taken in before the session
is disconnected. -/
def departure : List SessionAction := [
  .register mourner, .relist 0 mourner, .arrive (sighting "br0"), .arrive (sighting "br1"), .turn,
  .disconnect]

end Sample

/-- The mourner is told of the end twice and of nothing afterwards; the second report is lost. -/
theorem SharedSession.lifecycle_safe_departure :
    ∃ replica, Replica.new Sample.schema Sample.registry 4 = .ok replica
      ∧ let s := SharedSession.after { session := Sample.session replica } Sample.departure
        s.ended = false ∧ s.session.connected = false ∧ s.stream = [Sample.sighting "br1"]
          ∧ (∀ later, ∀ o ∈ s.log later, o.Late)
          ∧ s.step .turn = (s.finished s.stream, .ended s.farewell)
          ∧ s.farewell.map Notified.call = [⟨"mourner", false⟩, ⟨"mourner", false⟩]
          ∧ (∀ later, ∀ o ∈ (s.step .turn).1.log later, o.told = [])
          ∧ s.session.replica.store.row? "Bridge" "1" = some (Sample.record "1" "br0" "") := by
  obtain ⟨replica, created⟩ := Sample.exists_replica
  obtain ⟨late, ending, -, -, -, last⟩ :=
    SharedSession.lifecycle_safe (Sample.session replica) Sample.departure
  cases created
  have turned := ending rfl rfl
  obtain ⟨-, -, -, silence⟩ := last .turn _ (congrArg Prod.snd turned)
  exact ⟨_, rfl, rfl, rfl, rfl, fun later => (late rfl later).2.2.1, turned, rfl, silence, rfl⟩

end TableReplica
