/-!
# Bounded queues

A queue that never makes anybody wait: what does not fit any more is dropped. It is drained by a
single loop, which can be started once; when the loop has ended, nothing waits and nothing is
accepted any more.
-/

namespace TableReplica

/-- How far the life of a queue has come. -/
inductive Phase where
  | unstarted
  | running
  | finished
deriving DecidableEq

/-- A queue that holds a limited number of items. -/
structure Queue (α : Type) where
  capacity : Nat
  positive : 0 < capacity
  phase : Phase
  /-- What waits, in the order of its arrival. -/
  waiting : List α
  bounded : waiting.length ≤ capacity
  drained : phase = .finished → waiting = []

namespace Queue

variable {α : Type}

/-- The greatest capacity that a queue can be given, which is the limit of the bounded channel that
the queue stands for. -/
def maxCapacity : Nat := 0x1FFFFFFFFFFFFFFF

/-- The queue in which nothing waits yet. -/
def new (capacity : Nat) (positive : 0 < capacity) : Queue α :=
  ⟨capacity, positive, .unstarted, [], Nat.zero_le _, fun _ => rfl⟩

/-- Whether the next item will be accepted. -/
def accepts (q : Queue α) : Bool := q.phase != .finished && q.waiting.length < q.capacity

/-- The queue after an item has arrived. -/
def post (q : Queue α) (a : α) : Queue α :=
  if accepted : q.phase ≠ .finished ∧ q.waiting.length < q.capacity then
    { q with
      waiting := q.waiting ++ [a]
      bounded := by simpa using Nat.succ_le_of_lt accepted.2
      drained := fun finished => absurd finished accepted.1 }
  else q

/-- The queue after items have arrived in order. -/
def postAll (q : Queue α) (items : List α) : Queue α := items.foldl post q

/-- The queue when its loop starts. -/
def start (q : Queue α) : Queue α :=
  { q with phase := .running, drained := fun impossible => nomatch impossible }

/-- The queue when its loop has ended. -/
def halt (q : Queue α) : Queue α :=
  { q with phase := .finished, waiting := [], bounded := Nat.zero_le _, drained := fun _ => rfl }

/-- The first item that waits and the queue without it, if the loop is running. -/
def take? (q : Queue α) : Option (α × Queue α) :=
  match waits : q.waiting with
  | [] => none
  | a :: rest =>
    if q.phase = .running then
      some (a, { q with
        waiting := rest
        bounded := by
          have := q.bounded
          rw [waits] at this
          exact Nat.le_of_succ_le this
        drained := fun finished => by
          have := q.drained finished
          rw [waits] at this
          cases this })
    else none

end Queue

end TableReplica
