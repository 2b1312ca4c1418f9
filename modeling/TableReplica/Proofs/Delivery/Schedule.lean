import Mathlib.Logic.Function.Basic
import TableReplica.Delivery.Dispatcher
import TableReplica.Proofs.Delivery.Queue

/-!
# Schedules of a delivery

A delivery is shared by those who raise events, those who start loops and those who hold the
switches. What they do can be interleaved in any way: an event arrives, a call is to start the loop,
a loop takes a turn, a switch is set or thrown away. A loop sees that its switch was set when its
next turn comes, and looks at the switch before it looks at the queue.

Whoever works on a delivery alone does several of these steps at once. To run it is to start the
loop (`SharedDelivery.queue_run`), to deliver a number of events is to let the loop take as many
turns (`SharedDelivery.delivery_after_turns`), and to halt is to set the switch or to throw it away,
and to let the loop take its turn (`SharedDelivery.delivery_after_set`,
`SharedDelivery.delivery_after_abandon`).
-/

namespace TableReplica

/-! ## Switches and loops -/

/-- A switch that loops hang on. -/
structure Toggle where
  off : Bool
  /-- How often the switch has been set. -/
  changes : Nat := 0
  /-- Whether the switch has been thrown away. -/
  gone : Bool := false
deriving DecidableEq

/-- The switch after it has been set to a side, unless it has been thrown away. -/
def Toggle.set (t : Toggle) (off : Bool) : Toggle :=
  if t.gone then t else { t with off, changes := t.changes + 1 }

/-- A call that was to start the loop of a delivery. -/
inductive LoopState where
  /-- The loop hangs on a switch and has last looked at it after a number of changes. -/
  | serving (toggle seen : Nat)
  | returned
deriving DecidableEq

/-- A delivery that several parties work on. -/
structure SharedDelivery where
  delivery : Delivery
  toggles : Nat → Toggle
  /-- The calls that were to start the loop, in their order. -/
  loops : List LoopState := []

/-- What one of the parties does. -/
inductive Action where
  | arrive (e : Event)
  /-- The loop is to be started with a switch. -/
  | run (toggle : Nat)
  /-- The loop of a call takes a turn. -/
  | turn (loop : Nat)
  | set (toggle : Nat) (off : Bool)
  /-- A switch is thrown away. -/
  | abandon (toggle : Nat)
deriving DecidableEq

/-- What comes of an action for the events. -/
inductive Occurrence where
  | quiet
  | accepted (e : Event)
  | dropped (e : Event)
  | dispatched (loop : Nat) (e : Event)
deriving DecidableEq

namespace Occurrence

/-- The event that has been accepted, if one has. -/
@[simp]
def accepted? : Occurrence → Option Event
  | .accepted e => some e
  | _ => none

/-- The event that has been dispatched, if one has. -/
@[simp]
def dispatched? : Occurrence → Option Event
  | .dispatched _ e => some e
  | _ => none

end Occurrence

namespace SharedDelivery

/-- A delivery before anything has happened to it. -/
def new (capacity : Nat) (positive : 0 < capacity) (roster : Roster EventKind)
    (toggles : Nat → Toggle) : SharedDelivery where
  delivery := { Delivery.new capacity positive with roster }
  toggles

/-- An event arrives. It has been accepted if more events wait than before. -/
def arrive (s : SharedDelivery) (e : Event) : SharedDelivery × Occurrence :=
  let delivery := s.delivery.post [e]
  ({ s with delivery },
    if s.delivery.queue.waiting.length < delivery.queue.waiting.length then .accepted e
    else .dropped e)

/-- A call is to start the loop. Only the first one does, unless its switch is off already. -/
def run (s : SharedDelivery) (toggle : Nat) : SharedDelivery :=
  let t := s.toggles toggle
  if s.delivery.queue.phase = .unstarted then
    if t.off then
      { s with delivery := s.delivery.haltElsewhere, loops := s.loops ++ [.returned] }
    else
      { s with
        delivery := s.delivery.runElsewhere, loops := s.loops ++ [.serving toggle t.changes] }
  else { s with loops := s.loops ++ [.returned] }

/-- A loop ends. -/
def finish (s : SharedDelivery) (loop : Nat) : SharedDelivery :=
  { s with delivery := s.delivery.haltElsewhere, loops := s.loops.set loop .returned }

/-- An event has been taken from the queue and shown to the observers. -/
def showing (s : SharedDelivery) (e : Event) (rest : Queue Event) : SharedDelivery :=
  let roster := (Delivery.dispatch e s.delivery.roster).1
  { s with delivery := { s.delivery with queue := rest, roster } }

/-- A loop shows the first event that waits to the observers. -/
def dispatch (s : SharedDelivery) (loop : Nat) : SharedDelivery × Occurrence :=
  match s.delivery.queue.waiting, s.delivery.deliverNext? with
  | e :: _, some (delivery, _) => ({ s with delivery }, .dispatched loop e)
  | _, _ => (s, .quiet)

/-- A loop takes a turn: if its switch has been set since it last looked, it ends or goes on, as the
switch says; if the switch has been thrown away, it ends; otherwise it sees to the queue. -/
def turn (s : SharedDelivery) (loop : Nat) : SharedDelivery × Occurrence :=
  match s.loops[loop]? with
  | some (.serving toggle seen) =>
    let t := s.toggles toggle
    if t.changes ≠ seen then
      if t.off then (s.finish loop, .quiet)
      else ({ s with loops := s.loops.set loop (.serving toggle t.changes) }, .quiet)
    else if t.gone then (s.finish loop, .quiet)
    else s.dispatch loop
  | _ => (s, .quiet)

/-- A switch is replaced by what has become of it. -/
def withToggle (s : SharedDelivery) (toggle : Nat) (t : Toggle) : SharedDelivery :=
  { s with toggles := Function.update s.toggles toggle t }

theorem toggles_withToggle_self (s : SharedDelivery) (toggle : Nat) (t : Toggle) :
    (s.withToggle toggle t).toggles toggle = t := by
  simp [withToggle]

theorem toggles_withToggle_of_ne (s : SharedDelivery) {toggle other : Nat} (ne : other ≠ toggle)
    (t : Toggle) : (s.withToggle toggle t).toggles other = s.toggles other := by
  simp [withToggle, ne]

/-- One action is done. -/
def step (s : SharedDelivery) : Action → SharedDelivery × Occurrence
  | .arrive e => s.arrive e
  | .run toggle => (s.run toggle, .quiet)
  | .turn loop => s.turn loop
  | .set toggle off => (s.withToggle toggle ((s.toggles toggle).set off), .quiet)
  | .abandon toggle => (s.withToggle toggle { s.toggles toggle with gone := true }, .quiet)

/-- What has become of a delivery when actions have been done in order. -/
def after (s : SharedDelivery) (actions : List Action) : SharedDelivery :=
  actions.foldl (fun s a => (s.step a).1) s

/-- What comes of actions that are done in order. -/
def log (s : SharedDelivery) : List Action → List Occurrence
  | [] => []
  | a :: rest => (s.step a).2 :: log (s.step a).1 rest

/-- The events that are accepted while actions are done, in order. -/
def accepted (s : SharedDelivery) (actions : List Action) : List Event :=
  (s.log actions).filterMap Occurrence.accepted?

/-- The events that are dispatched while actions are done, in order. -/
def dispatched (s : SharedDelivery) (actions : List Action) : List Event :=
  (s.log actions).filterMap Occurrence.dispatched?

/-- Whether nothing is accepted any more, since the loop has ended. -/
def Closed (s : SharedDelivery) : Prop := s.loops.head? = some .returned

end SharedDelivery

/-- The event that arrives with an action. -/
@[simp]
def Action.arrival? : Action → Option Event
  | .arrive e => some e
  | _ => none

/-- The events that arrive with actions, in order. -/
def Action.arrivals (actions : List Action) : List Event := actions.filterMap Action.arrival?

theorem Action.arrivals_cons (a : Action) (rest : List Action) :
    arrivals (a :: rest) = a.arrival?.toList ++ arrivals rest := by
  rw [arrivals, List.filterMap_cons]
  cases a.arrival? <;> rfl

/-- The switch that an action gives to a loop. -/
def Action.run? : Action → Option Nat
  | .run toggle => some toggle
  | _ => none

/-- The switch that the first loop is started with. -/
def Action.firstRun (actions : List Action) : Option Nat := actions.findSome? Action.run?

theorem Action.firstRun_cons (a : Action) (rest : List Action) :
    firstRun (a :: rest) = a.run?.or (firstRun rest) := by
  rw [firstRun, List.findSome?_cons]
  cases a.run? <;> rfl

theorem Action.firstRun_append (actions later : List Action) :
    firstRun (actions ++ later) = (firstRun actions).or (firstRun later) := List.findSome?_append

namespace SharedDelivery

variable {s : SharedDelivery}

/-! ## Turns -/

theorem dispatch_of_take? {e : Event} {q : Queue Event}
    (taken : s.delivery.queue.take? = some (e, q)) (loop : Nat) :
    s.dispatch loop = (s.showing e q, .dispatched loop e) := by
  have waits := (Queue.of_take?_eq_some taken).2.1
  rw [dispatch, Delivery.deliverNext?, taken, waits]
  rfl

theorem dispatch_of_take?_eq_none (nothing : s.delivery.queue.take? = none) (loop : Nat) :
    s.dispatch loop = (s, .quiet) := by
  rw [dispatch, Delivery.deliverNext?, nothing]
  cases s.delivery.queue.waiting <;> rfl

theorem turn_of_serving {loop toggle seen : Nat}
    (serves : s.loops[loop]? = some (.serving toggle seen)) : s.turn loop =
      if (s.toggles toggle).changes ≠ seen then
        if (s.toggles toggle).off then (s.finish loop, .quiet)
        else ({ s with
          loops := s.loops.set loop (.serving toggle (s.toggles toggle).changes) }, .quiet)
      else if (s.toggles toggle).gone then (s.finish loop, .quiet)
      else s.dispatch loop := by
  rw [turn, serves]

/-- What can come of a turn. -/
inductive Turn (s : SharedDelivery) (loop : Nat) : Prop
  | idle (turned : s.turn loop = (s, .quiet))
  | ends {toggle seen : Nat} (serves : s.loops[loop]? = some (.serving toggle seen))
    (turned : s.turn loop = (s.finish loop, .quiet))
  | looks {toggle seen : Nat} (serves : s.loops[loop]? = some (.serving toggle seen))
    (on : (s.toggles toggle).off = false)
    (turned : s.turn loop = ({ s with
      loops := s.loops.set loop (.serving toggle (s.toggles toggle).changes) }, .quiet))
  | dispatches {toggle seen : Nat} {e : Event} {q : Queue Event}
    (serves : s.loops[loop]? = some (.serving toggle seen))
    (same : (s.toggles toggle).changes = seen) (taken : s.delivery.queue.take? = some (e, q))
    (turned : s.turn loop = (s.showing e q, .dispatched loop e))

theorem turn_cases (s : SharedDelivery) (loop : Nat) : Turn s loop := by
  by_cases serving : ∃ toggle seen, s.loops[loop]? = some (.serving toggle seen)
  · obtain ⟨toggle, seen, serves⟩ := serving
    have turned := turn_of_serving serves
    split at turned
    next =>
      split at turned
      next => exact .ends serves turned
      next on => exact .looks serves (Bool.eq_false_iff.mpr on) turned
    next same =>
      split at turned
      next => exact .ends serves turned
      next =>
        cases taken : s.delivery.queue.take? with
        | none => exact .idle (turned.trans (dispatch_of_take?_eq_none taken loop))
        | some first =>
          exact .dispatches serves (not_not.mp same) taken
            (turned.trans (dispatch_of_take? taken loop))
  · refine .idle ?_
    rw [turn]
    split
    next toggle seen serves => exact absurd ⟨toggle, seen, serves⟩ serving
    next => rfl

/-! ## Several steps at once -/

variable {loop toggle : Nat}

/-- A call does to the queue what running the delivery alone does. -/
theorem queue_run (free : s.delivery.switch ≠ .attached) (toggle : Nat) :
    (s.run toggle).delivery.queue = (s.delivery.run (s.toggles toggle).off).queue := by
  rw [run, Delivery.run, Delivery.release, if_neg free, Delivery.runElsewhere]
  split
  next => split <;> rfl
  next => rfl

/-- A loop sees to the queue if its switch is there and has not been set since it last looked. -/
theorem turn_eq_dispatch
    (serves : s.loops[loop]? = some (.serving toggle (s.toggles toggle).changes))
    (kept : (s.toggles toggle).gone = false) : s.turn loop = s.dispatch loop := by
  rw [turn_of_serving serves, if_neg (not_not_intro rfl), kept, if_neg Bool.false_ne_true]

theorem deliver_of_take?_eq_none {d : Delivery} (nothing : d.queue.take? = none) (n : Nat) :
    Delivery.deliver n d = (d, []) := by
  cases n with
  | zero => rfl
  | succ n =>
    rw [Delivery.deliver, Delivery.deliverNext?, nothing]
    rfl

/-- Delivering a number of events is as many turns of the loop. -/
theorem delivery_after_turns
    (serves : s.loops[loop]? = some (.serving toggle (s.toggles toggle).changes))
    (kept : (s.toggles toggle).gone = false) (n : Nat) :
    (s.after (List.replicate n (.turn loop))).delivery = (Delivery.deliver n s.delivery).1 := by
  induction n generalizing s with
  | zero => rfl
  | succ n ih =>
    change (after (s.turn loop).1 (List.replicate n (.turn loop))).delivery = _
    rw [turn_eq_dispatch serves kept]
    cases taken : s.delivery.queue.take? with
    | none =>
      rw [dispatch_of_take?_eq_none taken, ih serves kept, deliver_of_take?_eq_none taken,
        deliver_of_take?_eq_none taken]
    | some first =>
      rw [dispatch_of_take? taken, Delivery.deliver, Delivery.deliverNext?, taken]
      exact ih serves kept

/-- To halt is to turn the switch off and to let the loop take its turn. -/
theorem delivery_after_set {seen : Nat} (serves : s.loops[loop]? = some (.serving toggle seen))
    (past : seen ≤ (s.toggles toggle).changes) (kept : (s.toggles toggle).gone = false) :
    (s.after [.set toggle true, .turn loop]).delivery = s.delivery.haltElsewhere := by
  let t : Toggle := { off := true, changes := (s.toggles toggle).changes + 1 }
  have set : (s.toggles toggle).set true = t := by
    rw [Toggle.set, kept]
    rfl
  have serves' : (s.withToggle toggle t).loops[loop]? = some (.serving toggle seen) := serves
  change ((s.withToggle toggle ((s.toggles toggle).set true)).turn loop).1.delivery = _
  rw [set, turn_of_serving serves', toggles_withToggle_self,
    if_pos (Nat.ne_of_gt (Nat.lt_succ_of_le past)), if_pos rfl]
  rfl

/-- To halt is also to throw the switch away and to let the loop take its turn. -/
theorem delivery_after_abandon
    (serves : s.loops[loop]? = some (.serving toggle (s.toggles toggle).changes)) :
    (s.after [.abandon toggle, .turn loop]).delivery = s.delivery.haltElsewhere := by
  let t : Toggle := { s.toggles toggle with gone := true }
  have serves' : (s.withToggle toggle t).loops[loop]? =
      some (.serving toggle (s.toggles toggle).changes) := serves
  change ((s.withToggle toggle t).turn loop).1.delivery = _
  rw [turn_of_serving serves', toggles_withToggle_self, if_neg (not_not_intro rfl), if_pos rfl]
  rfl

end SharedDelivery

end TableReplica
