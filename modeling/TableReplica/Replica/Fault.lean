import TableReplica.Replica.Store

/-!
# Faults of the replica

What can be wrong with a call on the replica, and the wording of it.
-/

namespace TableReplica

/-- A record type that does not go with a call. -/
inductive InputFault where
  | notRegistered (model : String)
  /-- A condition on one table is used for the records of another. -/
  | otherTable (condition table model : String)
  /-- Records are listed under a condition on another table. -/
  | otherResult (condition table : String)
  | otherRecord (expected got : String)
deriving DecidableEq

/-- The text of the fault. -/
def InputFault.message : InputFault → String
  | .notRegistered model => model ++ " is not a registered model"
  | .otherTable condition table model =>
    "condition is for table " ++ condition ++ ", " ++ model ++ " is bound to " ++ table
  | .otherResult condition table =>
    "condition is for table " ++ condition ++ ", result holds " ++ table ++ " records"
  | .otherRecord expected got => "expected " ++ expected ++ ", got " ++ got

/-- What is wrong with a call on the replica. -/
inductive ReplicaFault where
  | core (cause : Fault)
  | input (cause : InputFault)
  /-- The condition of the call makes no sense. -/
  | condition (cause : ReplicaFault)
  | notFound
  | zeroEventBuffer
  /-- There is no queue that could hold so many events. -/
  | hugeEventBuffer
  /-- Some of the changes could not be applied. -/
  | populate (faults : List DeltaFault)

/-- The text of the fault, if it has one. -/
def ReplicaFault.message? : ReplicaFault → Option String
  | .core cause => cause.message?.map ("core error: " ++ ·)
  | .input cause => some ("input type error: " ++ cause.message)
  | .condition cause => cause.message?.map ("condition error: " ++ ·)
  | .notFound => some "object not found"
  | .zeroEventBuffer => some "event buffer capacity must be greater than zero"
  | .hugeEventBuffer => none
  | .populate faults =>
    some ("failed to apply " ++ toString faults.length ++ " of the received deltas")

instance : MonadLift (Except Fault) (Except ReplicaFault) := ⟨Except.mapError .core⟩

instance : MonadLift (Except InputFault) (Except ReplicaFault) := ⟨Except.mapError .input⟩

end TableReplica
