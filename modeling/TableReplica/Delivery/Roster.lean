import TableReplica.Sorted.Map

/-!
# Rosters of observers

The observers that are registered for news of some kinds, in the order of their registration. An
observer may change the roster while it is being told something, and it may fail; neither keeps the
others from hearing the same news, since every telling goes through the observers that were
registered when it began.

What an observer does when it is told something is written down as a `Script`, so that rosters are
data.
-/

namespace TableReplica

/-- What an observer does. -/
structure Script (κ : Type) where
  name : String
  /-- The kinds of news at which the observer does anything. -/
  hears : List κ
  /-- The kinds of news at which it fails, after doing the rest. -/
  fails : List κ := []
  /-- The observer that it removes from the roster. -/
  withdraws : Option String := none
  /-- The observer that it adds to the roster. -/
  enrols : Option (Script κ) := none

/-- The observers that are registered for news. -/
structure Roster (κ : Type) where
  /-- The registrations in order, each under the number of its observer. -/
  entries : List (Nat × Script κ) := []
  /-- The number that a name stands for; a name given again stands for the newer observer. -/
  known : SortedMap String Nat := .empty
  /-- The number of the next observer. -/
  next : Nat := 0

/-- An observer that was told something. -/
structure Call where
  observer : String
  failed : Bool
deriving DecidableEq

namespace Roster

variable {κ : Type}

/-- The roster with one more observer. -/
def enrol (r : Roster κ) (s : Script κ) : Roster κ where
  entries := r.entries ++ [(r.next, s)]
  known := r.known.insert s.name r.next
  next := r.next + 1

/-- The roster without the registrations of an observer. -/
def strike (r : Roster κ) (number : Nat) : Roster κ :=
  { r with entries := r.entries.filter fun entry => entry.1 != number }

/-- The roster without the observer that a name stands for. -/
def withdraw (r : Roster κ) (name : String) : Roster κ :=
  match r.known.get? name with
  | some number => r.strike number
  | none => r

/-- Whether the observer that a name stands for is registered. -/
def isRegistered (r : Roster κ) (name : String) : Bool :=
  match r.known.get? name with
  | some number => r.entries.any fun entry => entry.1 == number
  | none => false

/-- The roster after an observer has done what its script says. -/
def perform (r : Roster κ) (s : Script κ) : Roster κ :=
  let r := (s.withdraws.map r.withdraw).getD r
  (s.enrols.map r.enrol).getD r

variable [DecidableEq κ]

/-- Tells one observer that there is news of a kind. -/
def call (kind : κ) (s : Script κ) (r : Roster κ) : Roster κ × List Call :=
  if s.hears.contains kind then (r.perform s, [⟨s.name, s.fails.contains kind⟩]) else (r, [])

/-- Tells some observers one after the other that there is news of a kind. -/
def callAll (kind : κ) : List (Script κ) → Roster κ → Roster κ × List Call
  | [], r => (r, [])
  | s :: rest, r =>
    let (r, calls) := call kind s r
    let (r, later) := callAll kind rest r
    (r, calls ++ later)

/-- Tells all observers that are registered now that there is news of a kind. -/
def notify (r : Roster κ) (kind : κ) : Roster κ × List Call :=
  callAll kind (r.entries.map Prod.snd) r

end Roster

end TableReplica
