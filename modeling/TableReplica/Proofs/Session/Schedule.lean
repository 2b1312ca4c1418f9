import TableReplica.Proofs.Delivery.Roster
import TableReplica.Proofs.Failure
import TableReplica.Proofs.Replica.Apply
import TableReplica.Proofs.Session.Requests

/-!
# Schedules of a session

A session is shared by those who make requests, those who listen to it, the server, which sends
messages, and two loops, of which one takes the messages in and the other delivers the events of the
replica. What they do can be interleaved in any way. A step goes on until somebody would have to
wait: a request is a step up to its call, and another one when the answer is there; a loop takes one
turn at a time. There is a flag that tells whether the session is connected. Requests look at it
first, and so do the loops whenever their turn comes; it is lowered by those who disconnect or
abandon the session, and by the loop itself when it learns that the connection is lost.

Whoever works on a session alone does several of these steps at once. A request is followed by the
answer that the link has for it (`SharedSession.session_after_request`); to stop is to abandon the
session and to let both loops take their turn (`SharedSession.session_after_abandon`), and to
disconnect closes the link besides (`SharedSession.session_after_disconnect`).
-/

namespace TableReplica

/-! ## Messages -/

/-- Something that a server sends without having been asked for it. -/
inductive Message where
  /-- What a monitor reports. -/
  | report (params : Json)
  /-- A sign of life is asked for. -/
  | echo (args : List Json)
  /-- The connection is lost. -/
  | gone

namespace Message

/-- What the listeners are to be told of a message, if anything. -/
def notice? : Message → Option Notice
  | .report params => Notice.ofReport? params
  | .echo args => some (.echo args)
  | .gone => none

/-- The changes that a message reports. -/
def changes? (m : Message) : Option Changes :=
  match m.notice? with
  | some (.update _ changes) => some changes
  | _ => none

/-- What the server is to get back for a message. -/
def reply? : Message → Option (List Json)
  | .echo args => some args
  | _ => none

/-- What is to be told of a message to those on a roster, who find some store in the replica. -/
def notified (m : Message) (found : Store) (r : Roster NoticeKind) : List Notified :=
  match m.notice? with
  | some n => (r.callsFor n.kind).map (⟨·, n, found⟩)
  | none => []

end Message

theorem Notice.give_eq (n : Notice) (found : Store) (r : Roster NoticeKind) :
    n.give found r = ((r.notify n.kind).1, (r.callsFor n.kind).map (⟨·, n, found⟩)) := by
  rw [← Roster.calls_notify]
  rfl

/-- A proper report is an array that begins with a context and changes. -/
theorem Notice.ofReport?_eq_some_iff {params : Json} {n : Notice} :
    ofReport? params = some n ↔ ∃ context value rest changes,
      params = .array (context :: value :: rest) ∧ Changes.read value = .ok changes
        ∧ n = .update context changes := by
  constructor
  · intro proper
    unfold ofReport? at proper
    split at proper
    next context value rest =>
      obtain ⟨changes, read, rfl⟩ := Option.map_eq_some_iff.mp proper
      exact ⟨context, value, rest, changes, rfl, Except.toOption_eq_some_iff.mp read, rfl⟩
    next => cases proper
  · rintro ⟨context, value, rest, changes, rfl, read, rfl⟩
    rw [ofReport?, read]
    rfl

/-! ## Sessions that are shared -/

/-- A session that several parties work on. -/
structure SharedSession (σ : Type) where
  session : Session σ
  /-- The messages that wait, in the order of their arrival. -/
  stream : List Message := []
  /-- Whether no more messages can come. -/
  exhausted : Bool := false
  /-- Whether the loop that takes messages in has ended. -/
  ended : Bool := false
  /-- The requests that wait for their answers. -/
  pending : List Request := []

/-- What one of the parties does. -/
inductive SessionAction where
  | arrive (m : Message)
  /-- Nobody is left who could send messages. -/
  | exhaust
  /-- The loop that takes messages in takes a turn. -/
  | turn
  /-- The loop that delivers events takes a turn. -/
  | deliver
  | request (q : Request)
  /-- One of the requests that wait gets its answer. -/
  | answer (position : Nat) (answer : Except LinkFault Json)
  | register (s : Script NoticeKind)
  /-- An observer is registered once more. -/
  | relist (number : Nat) (s : Script NoticeKind)
  | unregister (number : Nat)
  | disconnect
  /-- The session is thrown away. -/
  | abandon

/-- What comes of an action. -/
inductive SessionOccurrence where
  | quiet
  /-- A message is there to be taken in. -/
  | arrived (m : Message)
  | called (method : String) (params : List Json)
  | refused (fault : SessionFault)
  | answered (q : Request) (answer : Except LinkFault Json)
  /-- A message has been taken in: the listeners have been told, and the server has got something
  back. -/
  | taken (m : Message) (notified : List Notified) (reply : Option (List Json))
  /-- The loop that takes messages in has ended. -/
  | ended (notified : List Notified)

namespace SessionOccurrence

/-- The message that is there to be taken in. -/
@[simp]
def arrived? : SessionOccurrence → Option Message
  | .arrived m => some m
  | _ => none

/-- The message that has been taken in. -/
@[simp]
def taken? : SessionOccurrence → Option Message
  | .taken m .. => some m
  | _ => none

/-- What the server has got back. -/
@[simp]
def reply? : SessionOccurrence → Option (List Json)
  | .taken _ _ reply => reply
  | _ => none

/-- The call that has been made. -/
@[simp]
def called? : SessionOccurrence → Option (String × List Json)
  | .called method params => some (method, params)
  | _ => none

/-- The rows that a monitor has reported at first. -/
@[simp]
def loaded? : SessionOccurrence → Option Changes
  | .answered q answer => q.contents? answer
  | _ => none

/-- The changes that a monitor has reported, at first or later. -/
@[simp]
def changes? : SessionOccurrence → Option Changes
  | .answered q answer => q.contents? answer
  | .taken m .. => m.changes?
  | _ => none

/-- What the listeners have been told. -/
@[simp]
def told : SessionOccurrence → List Notified
  | .taken _ notified _ => notified
  | .ended notified => notified
  | _ => []

end SessionOccurrence

namespace SharedSession

variable {σ : Type}

/-- The flag is lowered. -/
def lower (s : SharedSession σ) : SharedSession σ :=
  { s with session := { s.session with connected := false } }

/-- A message arrives, unless there is nobody to send it or to take it in. -/
def arrive (s : SharedSession σ) (m : Message) : SharedSession σ × SessionOccurrence :=
  if s.exhausted || s.ended then (s, .quiet)
  else ({ s with stream := s.stream ++ [m] }, .arrived m)

/-- The loop that takes messages in ends, and tells the listeners. -/
def finish (s : SharedSession σ) : SharedSession σ × SessionOccurrence :=
  let (session, notified) := s.session.tell .disconnected
  ({ s with session, ended := true }, .ended notified)

/-- A message is taken in, which leaves others in the stream. -/
def take (s : SharedSession σ) (rest : List Message) :
    Message → SharedSession σ × SessionOccurrence
  | .report params =>
    let (session, notified) := s.session.takeReport params
    ({ s with session, stream := rest }, .taken (.report params) notified none)
  | .echo args =>
    let (session, notified, reply) := s.session.takeEcho args
    ({ s with session, stream := rest }, .taken (.echo args) notified reply)
  | .gone => { s with stream := rest }.lower.finish

/-- The loop that takes messages in takes a turn: it looks at the flag, and then at the stream. -/
def turn (s : SharedSession σ) : SharedSession σ × SessionOccurrence :=
  if s.ended then (s, .quiet)
  else if s.session.connected then
    match s.stream with
    | m :: rest => s.take rest m
    | [] => if s.exhausted then s.lower.finish else (s, .quiet)
  else s.finish

/-- The loop that delivers events takes a turn: it looks at the flag, and then at the queue. -/
def deliver (s : SharedSession σ) : SharedSession σ :=
  let delivery := s.session.replica.delivery
  { s with
    session.replica.delivery :=
      if s.session.connected then (delivery.deliverNext?.map Prod.fst).getD delivery
      else delivery.haltElsewhere }

/-- One of the requests that wait gets its answer. -/
def answer (s : SharedSession σ) (position : Nat) (answer : Except LinkFault Json) :
    SharedSession σ × SessionOccurrence :=
  match s.pending[position]? with
  | some q =>
    ({ s with
      session := (s.session.receive answer q).1
      pending := s.pending.eraseIdx position }, .answered q answer)
  | none => (s, .quiet)

/-- The roster of the listeners is replaced. -/
def withListeners (s : SharedSession σ) (listeners : Roster NoticeKind) : SharedSession σ :=
  { s with session := { s.session with listeners } }

variable [Link σ]

/-- A request is made, which leads to a call or is refused. -/
def request (s : SharedSession σ) (q : Request) : SharedSession σ × SessionOccurrence :=
  match s.session.callFor q with
  | .ok (method, params) =>
    ({ s with
      session := { s.session with link := (Link.call s.session.link method params).2 }
      pending := s.pending ++ [q] }, .called method params)
  | .error fault => (s, .refused fault)

/-- The flag is lowered and the link is closed. -/
def disconnect (s : SharedSession σ) : SharedSession σ :=
  { s with session := { s.session with connected := false, link := Link.close s.session.link } }

/-- One action is done. -/
def step (s : SharedSession σ) : SessionAction → SharedSession σ × SessionOccurrence
  | .arrive m => s.arrive m
  | .exhaust => ({ s with exhausted := true }, .quiet)
  | .turn => s.turn
  | .deliver => (s.deliver, .quiet)
  | .request q => s.request q
  | .answer position answer => s.answer position answer
  | .register script => (s.withListeners (s.session.listeners.enrol script), .quiet)
  | .relist number script => (s.withListeners (s.session.listeners.relist number script), .quiet)
  | .unregister number => (s.withListeners (s.session.listeners.strike number), .quiet)
  | .disconnect => (s.disconnect, .quiet)
  | .abandon => (s.lower, .quiet)

/-- What has become of a session when actions have been done in order. -/
def after (s : SharedSession σ) (actions : List SessionAction) : SharedSession σ :=
  actions.foldl (fun s a => (s.step a).1) s

/-- What comes of actions that are done in order. -/
def log (s : SharedSession σ) : List SessionAction → List SessionOccurrence
  | [] => []
  | a :: rest => (s.step a).2 :: log (s.step a).1 rest

theorem after_cons (s : SharedSession σ) (a : SessionAction) (rest : List SessionAction) :
    s.after (a :: rest) = (s.step a).1.after rest := rfl

theorem filterMap_log_cons {α : Type} (f : SessionOccurrence → Option α) (s : SharedSession σ)
    (a : SessionAction) (rest : List SessionAction) : (s.log (a :: rest)).filterMap f =
      (f (s.step a).2).toList ++ ((s.step a).1.log rest).filterMap f := by
  rw [log, List.filterMap_cons]
  cases f (s.step a).2 with
  | none => rfl
  | some b => rfl

end SharedSession

/-! ## What a step can do -/

/-- What a message does to a session that takes it in. -/
def Message.into {σ : Type} (m : Message) (s : Session σ) : Session σ :=
  { s with
    replica := m.changes?.elim s.replica fun changes => (s.replica.populate changes).1
    listeners := m.notice?.elim s.listeners fun n => (s.listeners.notify n.kind).1 }

namespace SharedSession

variable {σ : Type} {s : SharedSession σ}

/-- The session once the loop has taken a message in, which leaves others in the stream. -/
def past (s : SharedSession σ) (m : Message) (rest : List Message) : SharedSession σ :=
  { s with session := m.into s.session, stream := rest }

theorem take_of_connected (connected : s.session.connected = true) {m : Message}
    (present : m ≠ .gone) (rest : List Message) :
    s.take rest m = (s.past m rest,
      .taken m (m.notified (m.into s.session).replica.store s.session.listeners) m.reply?) := by
  cases m with
  | report params =>
    rw [past, take, Session.takeReport, connected]
    cases proper : Notice.ofReport? params with
    | none =>
      rw [Message.into, Message.changes?, Message.notified, Message.notice?, proper]
      rfl
    | some n =>
      obtain ⟨context, -, -, changes, -, -, rfl⟩ := Notice.ofReport?_eq_some_iff.mp proper
      rw [Message.into, Message.changes?, Message.notified, Message.notice?, proper]
      simp only [Session.tell, Notice.give_eq]
      rw [connected]
      rfl
  | echo args =>
    rw [past, take, Session.takeEcho, if_pos connected]
    simp only [Session.tell, Notice.give_eq]
    rfl
  | gone => exact absurd rfl present

/-- The session when the loop that takes messages in has ended and has left a stream. -/
def finished (s : SharedSession σ) (stream : List Message) : SharedSession σ :=
  { s with
    session := { s.session with
      connected := false, listeners := (s.session.listeners.notify .disconnected).1 }
    stream, ended := true }

/-- What the listeners are told when the loop ends. -/
def farewell (s : SharedSession σ) : List Notified :=
  (s.session.listeners.callsFor .disconnected).map (⟨·, .disconnected, s.session.replica.store⟩)

theorem finish_lower (s : SharedSession σ) (stream : List Message) :
    { s with stream }.lower.finish = (s.finished stream, .ended s.farewell) := by
  rw [finish, Session.tell, Notice.give_eq]
  rfl

/-- What an action that is none of the loop's leaves alone. Rows do not change, messages stay, and
the flag is not raised. -/
structure Spares (s next : SharedSession σ) : Prop where
  store : next.session.replica.store = s.session.replica.store
  stream : next.stream = s.stream
  ended : next.ended = s.ended
  connected : next.session.connected = true → s.session.connected = true

/-- What an action can do, and what can come of it. -/
inductive Moves (s : SharedSession σ) : SharedSession σ → SessionOccurrence → Prop
  | idle {next : SharedSession σ} (spares : s.Spares next) : Moves s next .quiet
  | calls {next : SharedSession σ} {method : String} {params : List Json}
    (connected : s.session.connected = true) (spares : s.Spares next) :
    Moves s next (.called method params)
  | refuses (fault : SessionFault) : Moves s s (.refused fault)
  | arrives (running : s.ended = false) (m : Message) :
    Moves s { s with stream := s.stream ++ [m] } (.arrived m)
  | answers (q : Request) (answer : Except LinkFault Json) (pending : List Request) :
    Moves s { s with session := (s.session.receive answer q).1, pending } (.answered q answer)
  | takes {m : Message} {rest : List Message} (running : s.ended = false)
    (connected : s.session.connected = true) (waits : s.stream = m :: rest)
    (present : m ≠ .gone) :
    Moves s (s.past m rest)
      (.taken m (m.notified (m.into s.session).replica.store s.session.listeners) m.reply?)
  | ends (running : s.ended = false) (stream : List Message) :
    Moves s (s.finished stream) (.ended s.farewell)

theorem Spares.refl (s : SharedSession σ) : s.Spares s := ⟨rfl, rfl, rfl, id⟩

theorem lower_of_disconnected (disconnected : s.session.connected = false) : s.lower = s := by
  rw [lower, ← disconnected]

/-! ### Turns -/

theorem turn_of_ended (ended : s.ended = true) : s.turn = (s, .quiet) := by
  rw [turn, if_pos ended]

theorem turn_of_disconnected (running : s.ended = false)
    (disconnected : s.session.connected = false) :
    s.turn = (s.finished s.stream, .ended s.farewell) := by
  rw [← finish_lower s s.stream]
  change s.turn = s.lower.finish
  rw [lower_of_disconnected disconnected, turn, running, disconnected]
  rfl

theorem turn_of_connected (running : s.ended = false) (connected : s.session.connected = true) :
    s.turn = match s.stream with
      | m :: rest => s.take rest m
      | [] => if s.exhausted then s.lower.finish else (s, .quiet) := by
  rw [turn, running, if_neg Bool.false_ne_true, if_pos connected]

/-- The first message that waits is taken in. -/
theorem turn_of_waiting (running : s.ended = false) (connected : s.session.connected = true)
    {m : Message} {rest : List Message} (waits : s.stream = m :: rest) (present : m ≠ .gone) :
    s.turn = (s.past m rest,
      .taken m (m.notified (m.into s.session).replica.store s.session.listeners) m.reply?) := by
  rw [turn_of_connected running connected, waits]
  exact take_of_connected connected present rest

/-- The loop ends when it learns that the connection is lost. -/
theorem turn_of_gone (running : s.ended = false) (connected : s.session.connected = true)
    {rest : List Message} (waits : s.stream = .gone :: rest) :
    s.turn = (s.finished rest, .ended s.farewell) := by
  rw [turn_of_connected running connected, waits]
  exact finish_lower s rest

/-- The loop ends when no more messages can come. -/
theorem turn_of_exhausted (running : s.ended = false) (connected : s.session.connected = true)
    (waits : s.stream = []) (exhausted : s.exhausted = true) :
    s.turn = (s.finished [], .ended s.farewell) := by
  rw [turn_of_connected running connected, waits, exhausted]
  change s.lower.finish = _
  rw [← waits]
  exact finish_lower s s.stream

theorem moves_turn (s : SharedSession σ) : Moves s s.turn.1 s.turn.2 := by
  cases running : s.ended with
  | true =>
    rw [turn_of_ended running]
    exact .idle (.refl s)
  | false =>
    cases connected : s.session.connected with
    | false =>
      rw [turn_of_disconnected running connected]
      exact .ends running s.stream
    | true =>
      cases waits : s.stream with
      | nil =>
        cases exhausted : s.exhausted with
        | true =>
          rw [turn_of_exhausted running connected waits exhausted]
          exact .ends running []
        | false =>
          rw [turn_of_connected running connected, waits, exhausted]
          exact .idle (.refl s)
      | cons m rest =>
        by_cases present : m = .gone
        · subst present
          rw [turn_of_gone running connected waits]
          exact .ends running rest
        · rw [turn_of_waiting running connected waits present]
          exact .takes running connected waits present

variable [Link σ]

theorem moves_step (s : SharedSession σ) (a : SessionAction) :
    Moves s (s.step a).1 (s.step a).2 := by
  cases a with
  | turn => exact s.moves_turn
  | arrive m =>
    change Moves s (s.arrive m).1 (s.arrive m).2
    rw [arrive]
    by_cases closed : (s.exhausted || s.ended) = true
    · rw [if_pos closed]
      exact .idle (.refl s)
    · rw [if_neg closed]
      exact .arrives (Bool.or_eq_false_iff.mp (eq_false_of_ne_true closed)).2 m
  | request q =>
    change Moves s (s.request q).1 (s.request q).2
    rw [request]
    cases connected : s.session.connected with
    | false =>
      rw [Session.callFor_of_disconnected connected]
      exact .refuses .disconnected
    | true =>
      cases s.session.callFor q with
      | error fault => exact .refuses fault
      | ok call => exact .calls connected ⟨rfl, rfl, rfl, id⟩
  | answer position answer =>
    change Moves s (s.answer position answer).1 (s.answer position answer).2
    rw [SharedSession.answer]
    cases s.pending[position]? with
    | none => exact .idle (.refl s)
    | some q => exact .answers q answer _
  | disconnect => exact .idle ⟨rfl, rfl, rfl, nofun⟩
  | abandon => exact .idle ⟨rfl, rfl, rfl, nofun⟩
  | exhaust => exact .idle ⟨rfl, rfl, rfl, id⟩
  | deliver => exact .idle ⟨rfl, rfl, rfl, id⟩
  | register script => exact .idle ⟨rfl, rfl, rfl, id⟩
  | relist number script => exact .idle ⟨rfl, rfl, rfl, id⟩
  | unregister number => exact .idle ⟨rfl, rfl, rfl, id⟩

/-- What every step keeps is kept along a schedule, of which nothing comes but what every step
allows. -/
theorem kept_after (kept : SharedSession σ → Prop) (allowed : SessionOccurrence → Prop)
    (steps : ∀ {s next o}, Moves s next o → kept s → kept next ∧ allowed o) (start : kept s)
    (actions : List SessionAction) :
    kept (s.after actions) ∧ ∀ o ∈ s.log actions, allowed o := by
  induction actions generalizing s with
  | nil => exact ⟨start, List.forall_mem_nil _⟩
  | cons a rest ih =>
    obtain ⟨next, first⟩ := steps (s.moves_step a) start
    obtain ⟨last, others⟩ := ih next
    exact ⟨last, List.forall_mem_cons.mpr ⟨first, others⟩⟩

/-! ## Several steps at once -/

/-- To make a request alone is to make it and to get the answer that the link has for it. -/
theorem session_after_request {q : Request} {method : String} {params : List Json}
    (sends : s.session.callFor q = .ok (method, params)) :
    let answer := (Link.call s.session.link method params).1
    s.after [.request q, .answer s.pending.length answer] =
      { s with session := (s.session.request q).1 } := by
  intro answer
  change ((s.request q).1.answer s.pending.length answer).1 = _
  rw [Session.request_eq, request, sends]
  simp [SharedSession.answer, List.eraseIdx_append_of_length_le, answer]

/-- To stop is to throw the session away and to let both loops take their turn. -/
theorem session_after_abandon (running : s.ended = false)
    (connected : s.session.connected = true) :
    (s.after [.abandon, .turn, .deliver]).session = s.session.stop.1
      ∧ s.log [.abandon, .turn, .deliver] = [.quiet, .ended s.session.stop.2, .quiet] := by
  have turned : s.lower.turn = (s.lower.finished s.stream, .ended s.farewell) :=
    turn_of_disconnected running rfl
  have stopped : s.session.stop = ((s.lower.finished s.stream).deliver.session, s.farewell) := by
    rw [Session.stop, if_pos connected, Notice.give_eq]
    rfl
  constructor
  · change s.lower.turn.1.deliver.session = _
    rw [turned, stopped]
  · change [_, s.lower.turn.2, _] = _
    rw [turned, stopped]
    rfl

/-- To disconnect closes the link besides. -/
theorem session_after_disconnect (running : s.ended = false)
    (connected : s.session.connected = true) :
    (s.after [.disconnect, .turn, .deliver]).session = s.session.disconnect.1
      ∧ s.log [.disconnect, .turn, .deliver] =
        [.quiet, .ended s.session.disconnect.2, .quiet] := by
  have turned : s.disconnect.turn = (s.disconnect.finished s.stream, .ended s.farewell) :=
    turn_of_disconnected running rfl
  have stopped :
      s.session.disconnect = ((s.disconnect.finished s.stream).deliver.session, s.farewell) := by
    rw [Session.disconnect, Session.stop, if_pos connected, Notice.give_eq]
    rfl
  constructor
  · change s.disconnect.turn.1.deliver.session = _
    rw [turned, stopped]
  · change [_, s.disconnect.turn.2, _] = _
    rw [turned, stopped]
    rfl

end SharedSession

end TableReplica
