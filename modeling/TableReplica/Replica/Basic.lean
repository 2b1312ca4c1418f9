import TableReplica.Delivery.Dispatcher
import TableReplica.Replica.Fault

/-!
# The replica

A local copy of the tables that an application follows, with the delivery of what happens to their
rows. Every change that is applied raises one event; events that do not fit into the queue any more
are lost, the copy never is.
-/

namespace TableReplica

/-- A local copy of tables, and the delivery of what happens to their rows. -/
structure Replica where
  store : Store
  delivery : Delivery

namespace Replica

/-- The replica without records. -/
def new (schema : Schema) (registry : Registry) (eventBuffer : Nat) :
    Except ReplicaFault Replica :=
  if eventBuffer = 0 then .error .zeroEventBuffer
  else do
    let store ← (Store.new schema registry : Except Fault Store)
    match Delivery.new? eventBuffer with
    | some delivery => return ⟨store, delivery⟩
    | none => .error .hugeEventBuffer

/-- Applies the changes of a database and raises an event for each change that was applied. -/
def populate (p : Replica) (changes : Changes) : Replica × Except ReplicaFault Unit :=
  let applied := p.store.apply changes
  (⟨applied.state, p.delivery.post applied.events⟩,
    if applied.faults.isEmpty then .ok () else .error (.populate applied.faults))

/-- Delivers all events that wait. -/
def settle (p : Replica) : Replica × List Delivered :=
  let (delivery, delivered) := p.delivery.settle
  ({ p with delivery }, delivered)

end Replica

end TableReplica
