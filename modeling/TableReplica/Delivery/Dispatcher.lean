import TableReplica.Delivery.Event
import TableReplica.Delivery.Queue
import TableReplica.Delivery.Roster

/-!
# Delivery of events

Events are queued when they arise and delivered by a loop. The loop is started with a switch: it
ends when the switch is turned off or thrown away. Starting it again does not revive it, since the
first loop owns the queue; it only replaces the switch that is held, so that a loop which hangs on
the old one ends.
-/

namespace TableReplica

/-- The switch that is held for a delivery loop. -/
inductive Switch where
  | absent
  /-- No loop hangs on the switch (any more). -/
  | detached
  | attached
deriving DecidableEq

/-- An event that an observer was shown. -/
structure Delivered where
  call : Call
  event : Event
deriving DecidableEq

/-- The queue of events, the observers they are for, and the switch of the loop that delivers
them. -/
structure Delivery where
  queue : Queue Event
  roster : Roster EventKind := {}
  switch : Switch := .absent

namespace Delivery

/-- A delivery without events and observers. -/
def new (capacity : Nat) (positive : 0 < capacity) : Delivery := { queue := .new capacity positive }

/-- A delivery without events and observers, if there is a queue of this capacity. -/
def new? (capacity : Nat) : Option Delivery :=
  if possible : 0 < capacity ∧ capacity ≤ Queue.maxCapacity then some (.new capacity possible.1)
  else none

/-- The delivery after events have arisen in order. -/
def post (d : Delivery) (events : List Event) : Delivery :=
  { d with queue := d.queue.postAll events }

/-- Shows an event to the observers. -/
def dispatch (e : Event) (r : Roster EventKind) : Roster EventKind × List Delivered :=
  match e.report? with
  | some shown =>
    let (r, calls) := r.notify shown.kind
    (r, calls.map (⟨·, shown⟩))
  | none => (r, [])

/-- Delivers the first event that waits, if the loop is running. -/
def deliverNext? (d : Delivery) : Option (Delivery × List Delivered) :=
  d.queue.take?.map fun (e, queue) =>
    let (roster, delivered) := dispatch e d.roster
    ({ d with queue, roster }, delivered)

/-- Delivers up to a number of events. -/
def deliver : Nat → Delivery → Delivery × List Delivered
  | 0, d => (d, [])
  | n + 1, d =>
    match d.deliverNext? with
    | some (d, delivered) =>
      let (d, later) := deliver n d
      (d, delivered ++ later)
    | none => (d, [])

/-- Delivers all events that wait. -/
def settle (d : Delivery) : Delivery × List Delivered := deliver d.queue.waiting.length d

/-- Ends the loop that hangs on the switch, if there is one. -/
def release (d : Delivery) : Delivery :=
  if d.switch = .attached then { d with queue := d.queue.halt, switch := .detached } else d

/-- Starts a loop with a new switch, which may be off already. -/
def run (d : Delivery) (off : Bool) : Delivery :=
  if d.queue.phase = .unstarted then
    if off then { d with queue := d.queue.halt, switch := .detached }
    else { d with queue := d.queue.start, switch := .attached }
  else { d.release with switch := .detached }

/-- Starts the loop with a switch that is held elsewhere. -/
def runElsewhere (d : Delivery) : Delivery :=
  if d.queue.phase = .unstarted then { d with queue := d.queue.start } else d

/-- Turns off a switch that is held elsewhere. -/
def haltElsewhere (d : Delivery) : Delivery := { d with queue := d.queue.halt }

/-- Whether a signal to the switch would reach a loop; nothing if there is no switch. -/
def reaches? (d : Delivery) : Option Bool :=
  match d.switch with
  | .absent => none
  | .detached => some false
  | .attached => some true

/-- Signals through the switch whether the loop is to end. -/
def signal (d : Delivery) (off : Bool) : Delivery := if off then d.release else d

/-- Throws the switch away. -/
def dropSwitch (d : Delivery) : Delivery := { d.release with switch := .absent }

end Delivery

end TableReplica
