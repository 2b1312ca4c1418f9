import TableReplica.Proofs.Delivery.Schedule
import TableReplica.Proofs.Replica.Creation

/-!
# Bounded delivery in order

However the actions of a schedule are interleaved, events are dispatched in the order in which they
were accepted, each once, and never do more of them wait than there is room for
(`SharedDelivery.bounded_fifo`).

Two things are kept along a schedule. What has been accepted is what has been dispatched followed by
what waits, which only depends on what an action can do to the queue (`QueueStep.accounts`). And the
loop of the first call alone serves the queue; it has seen that its switch is on, unless the switch
has been set since (`Stage.after`).
-/

namespace TableReplica

/-! ## The queue -/

/-- What an action can do to the queue of events. -/
inductive QueueStep (q : Queue Event) : Occurrence → Queue Event → Prop
  | stay : QueueStep q .quiet q
  | accept {e : Event} (listening : q.phase ≠ .finished)
    (room : q.waiting.length < q.capacity) : QueueStep q (.accepted e) (q.post e)
  | drop {e : Event} (refused : ¬ (q.phase ≠ .finished ∧ q.waiting.length < q.capacity)) :
    QueueStep q (.dropped e) q
  | take {loop : Nat} {e : Event} {rest : Queue Event} (taken : q.take? = some (e, rest)) :
    QueueStep q (.dispatched loop e) rest
  | start (unstarted : q.phase = .unstarted) : QueueStep q .quiet q.start
  | halt : QueueStep q .quiet q.halt

namespace SharedDelivery

variable (s : SharedDelivery)

theorem arrive_of_room (listening : s.delivery.queue.phase ≠ .finished)
    (room : s.delivery.queue.waiting.length < s.delivery.queue.capacity) (e : Event) :
    s.arrive e = ({ s with delivery := s.delivery.post [e] }, .accepted e) := by
  have waits : (s.delivery.post [e]).queue.waiting = s.delivery.queue.waiting ++ [e] :=
    Queue.waiting_post_of_room listening room e
  rw [arrive, if_pos]
  simp [waits]

theorem arrive_of_refused (refused : ¬ (s.delivery.queue.phase ≠ .finished
      ∧ s.delivery.queue.waiting.length < s.delivery.queue.capacity)) (e : Event) :
    s.arrive e = (s, .dropped e) := by
  have same : s.delivery.post [e] = s.delivery := by
    have kept : s.delivery.queue.postAll [e] = s.delivery.queue := Queue.post_of_refused refused e
    rw [Delivery.post, kept]
  rw [arrive, same, if_neg (Nat.lt_irrefl _)]

theorem queueStep_turn (loop : Nat) :
    QueueStep s.delivery.queue (s.turn loop).2 (s.turn loop).1.delivery.queue := by
  cases s.turn_cases loop with
  | idle turned =>
    rw [turned]
    exact .stay
  | ends _ turned =>
    rw [turned]
    exact .halt
  | looks _ _ turned =>
    rw [turned]
    exact .stay
  | dispatches _ _ taken turned =>
    rw [turned]
    exact .take taken

theorem queueStep_run (toggle : Nat) :
    QueueStep s.delivery.queue .quiet (s.run toggle).delivery.queue := by
  rw [run]
  split
  next unstarted =>
    split
    next => exact .halt
    next =>
      rw [Delivery.runElsewhere, if_pos unstarted]
      exact .start unstarted
  next => exact .stay

theorem queueStep_arrive (e : Event) :
    QueueStep s.delivery.queue (s.arrive e).2 (s.arrive e).1.delivery.queue := by
  by_cases accepted : s.delivery.queue.phase ≠ .finished
      ∧ s.delivery.queue.waiting.length < s.delivery.queue.capacity
  · rw [s.arrive_of_room accepted.1 accepted.2]
    exact .accept accepted.1 accepted.2
  · rw [s.arrive_of_refused accepted]
    exact .drop accepted

/-- Every action does one of few things to the queue. -/
theorem queueStep_step (a : Action) :
    QueueStep s.delivery.queue (s.step a).2 (s.step a).1.delivery.queue := by
  cases a with
  | arrive e => exact s.queueStep_arrive e
  | run toggle => exact s.queueStep_run toggle
  | turn loop => exact s.queueStep_turn loop
  | set toggle off => exact .stay
  | abandon toggle => exact .stay

/-- What is accepted is what has arrived. -/
theorem accepted?_step (a : Action) :
    (s.step a).2.accepted?.toList.Sublist a.arrival?.toList := by
  cases a with
  | arrive e =>
    by_cases accepted : s.delivery.queue.phase ≠ .finished
        ∧ s.delivery.queue.waiting.length < s.delivery.queue.capacity
    · simp [step, s.arrive_of_room accepted.1 accepted.2]
    · simp [step, s.arrive_of_refused accepted]
  | turn loop =>
    cases s.turn_cases loop with
    | idle turned => simp [step, turned]
    | ends _ turned => simp [step, turned]
    | looks _ _ turned => simp [step, turned]
    | dispatches _ _ _ turned => simp [step, turned]
  | run toggle => exact List.nil_sublist _
  | set toggle off => exact List.nil_sublist _
  | abandon toggle => exact List.nil_sublist _

theorem accepted_cons (a : Action) (rest : List Action) : s.accepted (a :: rest) =
    (s.step a).2.accepted?.toList ++ (s.step a).1.accepted rest := by
  rw [accepted, log, List.filterMap_cons]
  cases (s.step a).2.accepted? <;> rfl

theorem dispatched_cons (a : Action) (rest : List Action) : s.dispatched (a :: rest) =
    (s.step a).2.dispatched?.toList ++ (s.step a).1.dispatched rest := by
  rw [dispatched, log, List.filterMap_cons]
  cases (s.step a).2.dispatched? <;> rfl

end SharedDelivery

/-! ## Accounts -/

/-- The events are accounted for: what has been dispatched was accepted in this order, and what has
been accepted since waits, as long as the loop has not ended. -/
structure Accounts (q : Queue Event) (accepted dispatched : List Event) : Prop where
  inOrder : dispatched <+: accepted
  remaining : q.phase ≠ .finished → accepted = dispatched ++ q.waiting

namespace QueueStep

variable {q r : Queue Event} {o : Occurrence}

theorem capacity (moves : QueueStep q o r) : r.capacity = q.capacity := by
  cases moves with
  | accept => exact q.capacity_post _
  | take taken => exact (Queue.of_take?_eq_some taken).2.2.2
  | stay | drop | start | halt => rfl

/-- When the loop has ended, nothing is accepted or dispatched any more. -/
theorem of_finished (moves : QueueStep q o r) (finished : q.phase = .finished) :
    r.phase = .finished ∧ o.dispatched? = none := by
  cases moves with
  | stay | drop => exact ⟨finished, rfl⟩
  | halt => exact ⟨rfl, rfl⟩
  | accept listening => exact absurd finished listening
  | take taken =>
    rw [(Queue.of_take?_eq_some taken).1] at finished
    cases finished
  | start unstarted =>
    rw [unstarted] at finished
    cases finished

theorem accounts (moves : QueueStep q o r) {accepted dispatched : List Event}
    (kept : Accounts q accepted dispatched) :
    Accounts r (accepted ++ o.accepted?.toList) (dispatched ++ o.dispatched?.toList) := by
  cases moves with
  | stay | drop => simpa using kept
  | @accept e listening room =>
    have grown : (q.post e).waiting = q.waiting ++ [e] :=
      Queue.waiting_post_of_room listening room e
    refine ⟨?_, fun _ => ?_⟩
    · simpa using kept.inOrder.trans (List.prefix_append _ _)
    · simp [kept.remaining listening, grown]
  | @take loop e _ taken =>
    obtain ⟨running, waits, -, -⟩ := Queue.of_take?_eq_some taken
    have all : accepted = dispatched ++ e :: r.waiting := by
      rw [kept.remaining (by rw [running]; decide), waits]
    refine ⟨?_, fun _ => ?_⟩
    · simp [all]
    · simp [all]
  | start unstarted =>
    have all : accepted = dispatched ++ q.start.waiting :=
      kept.remaining (by rw [unstarted]; decide)
    refine ⟨?_, fun _ => ?_⟩
    · simpa using kept.inOrder
    · simpa using all
  -- What waited is lost, so only the order remains.
  | halt => exact ⟨by simpa using kept.inOrder, fun ended => absurd rfl ended⟩

end QueueStep

namespace SharedDelivery

variable {s : SharedDelivery}

theorem capacity_after (actions : List Action) :
    (s.after actions).delivery.queue.capacity = s.delivery.queue.capacity := by
  induction actions generalizing s with
  | nil => rfl
  | cons a rest ih => exact ih.trans (s.queueStep_step a).capacity

theorem accounts_after {accepted dispatched : List Event}
    (kept : Accounts s.delivery.queue accepted dispatched) (actions : List Action) :
    Accounts (s.after actions).delivery.queue (accepted ++ s.accepted actions)
      (dispatched ++ s.dispatched actions) := by
  induction actions generalizing s accepted dispatched with
  | nil => simpa [SharedDelivery.accepted, SharedDelivery.dispatched, log, after] using kept
  | cons a rest ih =>
    rw [accepted_cons, dispatched_cons, ← List.append_assoc, ← List.append_assoc]
    exact ih ((s.queueStep_step a).accounts kept)

theorem accepted_sublist (actions : List Action) :
    (s.accepted actions).Sublist (Action.arrivals actions) := by
  induction actions generalizing s with
  | nil => exact List.Sublist.refl _
  | cons a rest ih =>
    rw [accepted_cons, Action.arrivals_cons]
    exact (s.accepted?_step a).append ih

theorem dispatched_of_finished (finished : s.delivery.queue.phase = .finished)
    (actions : List Action) : s.dispatched actions = [] := by
  induction actions generalizing s with
  | nil => rfl
  | cons a rest ih =>
    obtain ⟨finished', nothing⟩ := (s.queueStep_step a).of_finished finished
    rw [dispatched_cons, nothing, ih finished']
    rfl

end SharedDelivery

/-! ## Stages -/

/-- How far the loop has come, with the switch that the first call was given. No other call has a
loop, and a loop that serves has seen that its switch is on, unless that has been set since. -/
inductive Stage (s : SharedDelivery) : Option Nat → Prop
  | unstarted (loops : s.loops = []) (phase : s.delivery.queue.phase = .unstarted) : Stage s none
  | serving {toggle seen : Nat} {rest : List LoopState}
    (loops : s.loops = .serving toggle seen :: rest) (others : ∀ l ∈ rest, l = .returned)
    (phase : s.delivery.queue.phase = .running) (past : seen ≤ (s.toggles toggle).changes)
    (looked : (s.toggles toggle).changes = seen → (s.toggles toggle).off = false) :
    Stage s (some toggle)
  | ended {toggle : Nat} {rest : List LoopState} (loops : s.loops = .returned :: rest)
    (others : ∀ l ∈ rest, l = .returned) (phase : s.delivery.queue.phase = .finished) :
    Stage s (some toggle)

namespace Stage

variable {s t : SharedDelivery} {first : Option Nat}

/-- What is in the queue has nothing to do with the stage. -/
theorem congr (stage : Stage s first) (loops : t.loops = s.loops) (toggles : t.toggles = s.toggles)
    (phase : t.delivery.queue.phase = s.delivery.queue.phase) : Stage t first := by
  cases stage with
  | unstarted none unstarted => exact .unstarted (loops.trans none) (phase.trans unstarted)
  | serving serves others running past looked =>
    rw [← toggles] at past looked
    exact .serving (loops.trans serves) others (phase.trans running) past looked
  | ended returned others finished =>
    exact .ended (loops.trans returned) others (phase.trans finished)

theorem closed_iff (stage : Stage s first) :
    s.Closed ↔ s.delivery.queue.phase = .finished := by
  cases stage with
  | unstarted loops phase => simp [SharedDelivery.Closed, loops, phase]
  | serving loops _ phase => simp [SharedDelivery.Closed, loops, phase]
  | ended loops _ phase => simp [SharedDelivery.Closed, loops, phase]

/-- A loop that serves belongs to the first call. -/
theorem of_serving (stage : Stage s first) {loop toggle seen : Nat}
    (serves : s.loops[loop]? = some (.serving toggle seen)) :
    loop = 0 ∧ first = some toggle ∧ seen ≤ (s.toggles toggle).changes
      ∧ ((s.toggles toggle).changes = seen → (s.toggles toggle).off = false)
      ∧ s.delivery.queue.phase = .running
      ∧ ∃ rest, s.loops = .serving toggle seen :: rest ∧ ∀ l ∈ rest, l = .returned := by
  cases stage with
  | unstarted loops =>
    rw [loops] at serves
    cases serves
  | serving loops others phase past looked =>
    rw [loops] at serves
    cases loop with
    | zero =>
      cases serves
      exact ⟨rfl, rfl, past, looked, phase, _, loops, others⟩
    | succ later => exact nomatch others _ (List.mem_of_getElem? serves)
  | ended loops others =>
    rw [loops] at serves
    cases loop with
    | zero => cases serves
    | succ later => exact nomatch others _ (List.mem_of_getElem? serves)

theorem arrive (stage : Stage s first) (e : Event) : Stage (s.arrive e).1 first :=
  stage.congr rfl rfl (s.delivery.queue.phase_post e)

theorem run (stage : Stage s first) (toggle : Nat) :
    Stage (s.run toggle) (first.or (some toggle)) := by
  rw [SharedDelivery.run]
  cases stage with
  | unstarted loops phase =>
    rw [if_pos phase]
    split
    next off => exact .ended (by rw [loops]; rfl) (by simp) rfl
    next on =>
      refine .serving (by rw [loops]; rfl) (by simp) ?_ (Nat.le_refl _) fun _ => ?_
      · rw [Delivery.runElsewhere, if_pos phase]
        rfl
      · exact Bool.eq_false_iff.mpr on
  | @serving own seen rest loops others phase past looked =>
    rw [if_neg (by rw [phase]; decide)]
    have loops' : s.loops ++ [.returned] = .serving own seen :: (rest ++ [.returned]) := by
      rw [loops, List.cons_append]
    refine .serving loops' ?_ phase past looked
    simpa [or_imp, forall_and] using others
  | @ended _ rest loops others phase =>
    rw [if_neg (by rw [phase]; decide)]
    have loops' : s.loops ++ [.returned] = .returned :: (rest ++ [.returned]) := by
      rw [loops, List.cons_append]
    refine .ended loops' ?_ phase
    simpa [or_imp, forall_and] using others

theorem turn (stage : Stage s first) (loop : Nat) : Stage (s.turn loop).1 first := by
  cases s.turn_cases loop with
  | idle turned =>
    rw [turned]
    exact stage
  | ends serves turned =>
    obtain ⟨rfl, rfl, -, -, -, rest, loops, others⟩ := stage.of_serving serves
    have ended : s.loops.set 0 .returned = .returned :: rest := by rw [loops, List.set_cons_zero]
    rw [turned]
    exact .ended ended others rfl
  | @looks toggle _ serves on turned =>
    obtain ⟨rfl, rfl, -, -, phase, rest, loops, others⟩ := stage.of_serving serves
    have looked : s.loops.set 0 (.serving toggle (s.toggles toggle).changes) =
        .serving toggle (s.toggles toggle).changes :: rest := by
      rw [loops, List.set_cons_zero]
    rw [turned]
    exact .serving looked others phase (Nat.le_refl _) fun _ => on
  | dispatches _ _ taken turned =>
    obtain ⟨running, -, stays, -⟩ := Queue.of_take?_eq_some taken
    rw [turned]
    exact stage.congr rfl rfl (stays.trans running.symm)

/-- What becomes of a switch is seen, unless it is on the same side after as many changes. -/
theorem withToggle (stage : Stage s first) (toggle : Nat) {t : Toggle}
    (later : (s.toggles toggle).changes ≤ t.changes)
    (seen : t.changes = (s.toggles toggle).changes → t.off = (s.toggles toggle).off) :
    Stage (s.withToggle toggle t) first := by
  cases stage with
  | unstarted loops phase => exact .unstarted loops phase
  | ended loops others phase => exact .ended loops others phase
  | @serving own _ _ loops others phase past looked =>
    by_cases same : own = toggle
    · subst same
      refine .serving loops others phase ?_ ?_
      · rw [s.toggles_withToggle_self]
        exact Nat.le_trans past later
      · rw [s.toggles_withToggle_self]
        -- The loop has looked at the switch as it is now, so it has not been set.
        intro unchanged
        have still : t.changes = (s.toggles own).changes := by omega
        rw [seen still]
        exact looked (still.symm.trans unchanged)
    · rw [← s.toggles_withToggle_of_ne same t] at past looked
      exact .serving loops others phase past looked

theorem set (stage : Stage s first) (toggle : Nat) (off : Bool) :
    Stage (s.step (.set toggle off)).1 first := by
  apply stage.withToggle
  · rw [Toggle.set]
    split
    next => exact Nat.le_refl _
    next => exact Nat.le_succ _
  · rw [Toggle.set]
    split
    next => exact fun _ => rfl
    next => exact fun same => absurd same (Nat.succ_ne_self _)

theorem step (stage : Stage s first) (a : Action) :
    Stage (s.step a).1 (first.or a.run?) := by
  have keeps (kept : Stage (s.step a).1 first) (other : a.run? = none) :
      Stage (s.step a).1 (first.or a.run?) := by
    rw [other, Option.or_none]
    exact kept
  cases a with
  | run toggle => exact stage.run toggle
  | arrive e => exact keeps (stage.arrive e) rfl
  | turn loop => exact keeps (stage.turn loop) rfl
  | set toggle off => exact keeps (stage.set toggle off) rfl
  | abandon toggle => exact keeps (stage.withToggle toggle (Nat.le_refl _) fun _ => rfl) rfl

theorem after (stage : Stage s first) (actions : List Action) :
    Stage (s.after actions) (first.or (Action.firstRun actions)) := by
  induction actions generalizing s first with
  | nil =>
    rw [show first.or (Action.firstRun []) = first from Option.or_none]
    exact stage
  | cons a rest ih =>
    rw [Action.firstRun_cons, ← Option.or_assoc]
    exact ih (stage.step a)

end Stage

/-! ## Who dispatches -/

namespace SharedDelivery

variable {s : SharedDelivery} {toggle : Nat}

theorem toggles_run (started : Nat) : (s.run started).toggles = s.toggles := by
  rw [run]
  split
  next => split <;> rfl
  next => rfl

theorem toggles_turn (loop : Nat) : (s.turn loop).1.toggles = s.toggles := by
  cases s.turn_cases loop with
  | idle turned => rw [turned]
  | ends _ turned =>
    rw [turned]
    rfl
  | looks _ _ turned => rw [turned]
  | dispatches _ _ _ turned =>
    rw [turned]
    rfl

theorem off_withToggle (off : (s.toggles toggle).off = true) {other : Nat} {t : Toggle}
    (kept : toggle = other → t.off = true) :
    ((s.withToggle other t).toggles toggle).off = true := by
  by_cases same : toggle = other
  · subst same
    rw [s.toggles_withToggle_self]
    exact kept rfl
  · rw [s.toggles_withToggle_of_ne same]
    exact off

/-- A switch that is off stays off until it is set to the other side. -/
theorem off_step (off : (s.toggles toggle).off = true) {a : Action} (kept : a ≠ .set toggle false) :
    ((s.step a).1.toggles toggle).off = true := by
  cases a with
  | arrive e => exact off
  | run started =>
    change ((s.run started).toggles toggle).off = true
    rw [toggles_run]
    exact off
  | turn loop =>
    change ((s.turn loop).1.toggles toggle).off = true
    rw [toggles_turn]
    exact off
  | set other side =>
    refine off_withToggle off fun same => ?_
    subst same
    rw [Toggle.set]
    split
    next => exact off
    next =>
      cases side with
      | true => rfl
      | false => exact absurd rfl kept
  | abandon other =>
    refine off_withToggle off fun same => ?_
    subst same
    exact off

end SharedDelivery

namespace Stage

variable {s : SharedDelivery} {first : Option Nat}

/-- Events are dispatched by the loop of the first call, and only while its switch is on. -/
theorem of_dispatched (stage : Stage s first) {a : Action} {loop : Nat} {e : Event}
    (dispatches : (s.step a).2 = .dispatched loop e) :
    loop = 0 ∧ ∃ toggle, first = some toggle ∧ (s.toggles toggle).off = false := by
  cases a with
  | arrive e' =>
    change (s.arrive e').2 = _ at dispatches
    rw [SharedDelivery.arrive] at dispatches
    split at dispatches <;> cases dispatches
  | run started => cases dispatches
  | set other side => cases dispatches
  | abandon other => cases dispatches
  | turn loop' =>
    change (s.turn loop').2 = _ at dispatches
    cases s.turn_cases loop' with
    | idle turned =>
      rw [turned] at dispatches
      cases dispatches
    | ends _ turned =>
      rw [turned] at dispatches
      cases dispatches
    | looks _ _ turned =>
      rw [turned] at dispatches
      cases dispatches
    | dispatches serves same _ turned =>
      rw [turned] at dispatches
      cases dispatches
      obtain ⟨rfl, rfl, -, looked, -⟩ := stage.of_serving serves
      exact ⟨rfl, _, rfl, looked same⟩

theorem loop_eq_zero (stage : Stage s first) {actions : List Action} {loop : Nat} {e : Event}
    (dispatches : .dispatched loop e ∈ s.log actions) : loop = 0 := by
  induction actions generalizing s first with
  | nil => cases dispatches
  | cons a rest ih =>
    rcases List.mem_cons.mp dispatches with now | later
    · exact (stage.of_dispatched now.symm).1
    · exact ih (stage.step a) later

/-- While the switch of the first call is off, nothing is dispatched. -/
theorem dispatched_of_off (stage : Stage s first) {actions : List Action} {toggle : Nat}
    (own : first.or (Action.firstRun actions) = some toggle) (off : (s.toggles toggle).off = true)
    (kept : .set toggle false ∉ actions) : s.dispatched actions = [] := by
  induction actions generalizing s first with
  | nil => rfl
  | cons a rest ih =>
    rw [Action.firstRun_cons, ← Option.or_assoc] at own
    rw [List.mem_cons, not_or] at kept
    have nothing : (s.step a).2.dispatched? = none := by
      cases outcome : (s.step a).2 with
      | quiet | accepted | dropped => rfl
      | dispatched loop e =>
        obtain ⟨-, toggle', rfl, on⟩ := stage.of_dispatched outcome
        cases own
        rw [on] at off
        cases off
    rw [SharedDelivery.dispatched_cons, nothing,
      ih (stage.step a) own (SharedDelivery.off_step off (Ne.symm kept.1)) kept.2]
    rfl

end Stage

/-! ## Bounded delivery in order -/

namespace SharedDelivery

theorem stage_new {capacity : Nat} (positive : 0 < capacity) (roster : Roster EventKind)
    (toggles : Nat → Toggle) : Stage (new capacity positive roster toggles) none :=
  .unstarted rfl rfl

theorem accounts_new {capacity : Nat} (positive : 0 < capacity) (roster : Roster EventKind)
    (toggles : Nat → Toggle) :
    Accounts (new capacity positive roster toggles).delivery.queue [] [] :=
  ⟨List.prefix_rfl, fun _ => rfl⟩

/-- Whatever has been done to a delivery, and in whatever order: no more events wait than the
capacity allows; one more is accepted, behind those that wait, exactly if there is room and the loop
has not ended, and nothing changes otherwise; what has been dispatched is the beginning of what has
been accepted, in the order of arrival, and the loop dispatches what comes next when it looks at the
queue. Only the loop of the first call dispatches anything, and it does not from the time on at
which its switch is off for good, or at all if its switch is off when it is started. -/
theorem bounded_fifo {capacity : Nat} (positive : 0 < capacity) (roster : Roster EventKind)
    (toggles : Nat → Toggle) (actions : List Action) :
    let start := new capacity positive roster toggles
    let s := start.after actions
    let waiting := s.delivery.queue.waiting
    waiting.length ≤ capacity
      ∧ (∀ e, waiting.length < capacity ∧ ¬ s.Closed →
        s.step (.arrive e) = ({ s with delivery := s.delivery.post [e] }, .accepted e)
          ∧ (s.delivery.post [e]).queue.waiting = waiting ++ [e])
      ∧ (∀ e, ¬ (waiting.length < capacity ∧ ¬ s.Closed) →
        s.step (.arrive e) = (s, .dropped e))
      ∧ (start.accepted actions).Sublist (Action.arrivals actions)
      ∧ start.dispatched actions <+: start.accepted actions
      ∧ (¬ s.Closed → start.accepted actions = start.dispatched actions ++ waiting)
      ∧ (∀ toggle, s.loops.head? = some (.serving toggle (s.toggles toggle).changes) →
        (s.toggles toggle).gone = false → ∀ e ∈ waiting.head?,
          (s.step (.turn 0)).2 = .dispatched 0 e)
      ∧ (∀ loop e, .dispatched loop e ∈ start.log actions → loop = 0)
      ∧ (∀ toggle later, Action.firstRun (actions ++ later) = some toggle →
        (s.toggles toggle).off = true → .set toggle false ∉ later → s.dispatched later = [])
      ∧ ∀ toggle later, Action.firstRun actions = none → (s.toggles toggle).off = true →
        (s.step (.run toggle)).1.dispatched later = [] := by
  intro start s waiting
  have fresh : Stage start none := stage_new positive roster toggles
  have stage : Stage s (Action.firstRun actions) := fresh.after actions
  have accounts := accounts_after (accounts_new positive roster toggles) actions
  have sized : s.delivery.queue.capacity = capacity := capacity_after actions
  have opened : s.delivery.queue.phase ≠ .finished ↔ ¬ s.Closed := not_congr stage.closed_iff.symm
  refine ⟨?_, ?_, ?_, accepted_sublist actions, accounts.inOrder, ?_, ?_, ?_, ?_, ?_⟩
  · rw [← sized]
    exact s.delivery.queue.bounded
  · rintro e ⟨room, listening⟩
    rw [← sized] at room
    exact ⟨s.arrive_of_room (opened.mpr listening) room e,
      Queue.waiting_post_of_room (opened.mpr listening) room e⟩
  · intro e refused
    apply s.arrive_of_refused
    rw [opened, sized]
    exact fun accepted => refused accepted.symm
  · exact fun listening => accounts.remaining (opened.mpr listening)
  · intro toggle serves kept e waits
    rw [List.head?_eq_getElem?] at serves
    obtain ⟨-, -, -, -, running, -⟩ := stage.of_serving serves
    obtain ⟨rest, waits⟩ := List.head?_eq_some_iff.mp waits
    obtain ⟨q, taken⟩ := Queue.exists_take? running waits
    change (s.turn 0).2 = _
    rw [turn_eq_dispatch serves kept, dispatch_of_take? taken]
  · exact fun loop e dispatches => fresh.loop_eq_zero dispatches
  · intro toggle later own off kept
    rw [Action.firstRun_append] at own
    exact stage.dispatched_of_off own off kept
  · intro toggle later none off
    rw [none] at stage
    cases stage with
    | unstarted _ unstarted =>
      apply dispatched_of_finished
      change (s.run toggle).delivery.queue.phase = .finished
      rw [run, if_pos unstarted, if_pos off]
      rfl

end SharedDelivery

/-! ## An example -/

namespace Sample

/-- A bridge has appeared. -/
def appearance (id : String) : Event := .add "Bridge" (record id "" "")

/-- A delivery for two events, with switches that are on. -/
def delivery : SharedDelivery := .new 2 (by decide) {} fun _ => { off := false }

/-- One bridge too many appears before the loop starts; a second call does not make it faster. -/
def rush : List Action := [
  .arrive (appearance "1"), .arrive (appearance "2"), .arrive (appearance "3"), .run 0, .turn 0,
  .arrive (appearance "4"), .run 1, .turn 1, .turn 0, .set 0 true]

/-- The switch is off, but the loop has yet to see it. -/
def lull : List Action := [
  .arrive (appearance "5"), .turn 1, .turn 0, .arrive (appearance "6"), .run 2, .turn 0]

end Sample

/-- The third bridge is lost, the first two are dispatched, and the fourth waits in vain. -/
theorem SharedDelivery.bounded_fifo_rush :
    0 < 2 ∧ Sample.delivery.accepted Sample.rush =
        [Sample.appearance "1", Sample.appearance "2", Sample.appearance "4"]
      ∧ Sample.delivery.dispatched Sample.rush = [Sample.appearance "1", Sample.appearance "2"]
      ∧ Sample.delivery.dispatched Sample.rush <+: Sample.delivery.accepted Sample.rush
      ∧ Action.firstRun (Sample.rush ++ Sample.lull) = some 0
      ∧ ((Sample.delivery.after Sample.rush).toggles 0).off = true
      ∧ Action.set 0 false ∉ Sample.lull
      ∧ (Sample.delivery.after Sample.rush).dispatched Sample.lull = []
      ∧ (Sample.delivery.after Sample.rush).log Sample.lull =
        [.accepted (Sample.appearance "5"), .quiet, .quiet, .dropped (Sample.appearance "6"),
          .quiet, .quiet] := by
  obtain ⟨-, -, -, -, inOrder, -, -, -, stopped, -⟩ :=
    @bounded_fifo 2 (by decide) {} (fun _ => { off := false }) Sample.rush
  have kept : Action.set 0 false ∉ Sample.lull := by simp [Sample.lull]
  exact ⟨by decide, rfl, rfl, inOrder, rfl, rfl, kept, stopped 0 Sample.lull rfl rfl kept, rfl⟩

end TableReplica
