import TableReplica.Delivery.Roster

/-!
# Who is told

Whatever observers do while there is news, whether they fail or change the roster: everybody who was
registered when the telling began is told once for each registration, in order, and nobody else
(`Roster.calls_notify`).
-/

namespace TableReplica

variable {κ : Type}

/-- The roster with one more registration of an observer that has been registered before. -/
def Roster.relist (r : Roster κ) (number : Nat) (s : Script κ) : Roster κ :=
  { r with entries := r.entries ++ [(number, s)] }

variable [DecidableEq κ]

/-- The call of an observer when there is news of a kind, if that means anything to it. -/
def Script.call? (kind : κ) (s : Script κ) : Option Call :=
  if s.hears.contains kind then some ⟨s.name, s.fails.contains kind⟩ else none

namespace Roster

/-- The calls that tell everybody who is registered that there is news of a kind. -/
def callsFor (r : Roster κ) (kind : κ) : List Call :=
  r.entries.filterMap fun entry => entry.2.call? kind

theorem calls_call (kind : κ) (s : Script κ) (r : Roster κ) :
    (call kind s r).2 = (s.call? kind).toList := by
  rw [call, Script.call?]
  split
  next => rfl
  next => rfl

theorem calls_callAll (kind : κ) (scripts : List (Script κ)) (r : Roster κ) :
    (callAll kind scripts r).2 = scripts.filterMap (Script.call? kind) := by
  induction scripts generalizing r with
  | nil => rfl
  | cons s rest ih =>
    change (call kind s r).2 ++ (callAll kind rest (call kind s r).1).2 = _
    rw [calls_call, ih, List.filterMap_cons]
    cases s.call? kind with
    | none => rfl
    | some made => rfl

/-- Everybody who is registered is told once for each registration, in order. -/
theorem calls_notify (r : Roster κ) (kind : κ) : (r.notify kind).2 = r.callsFor kind := by
  rw [notify, calls_callAll, List.filterMap_map]
  rfl

end Roster

end TableReplica
