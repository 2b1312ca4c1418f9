import TableReplica.Record.Basic

/-!
# Events

What the replica tells its observers: that a row has appeared, changed or disappeared, with the
records that stand for it before and after.
-/

namespace TableReplica

/-- What has happened to a row. -/
inductive EventKind where
  | add
  | update
  | delete
deriving DecidableEq

/-- The name of a kind of event. -/
def EventKind.name : EventKind → String
  | .add => "add"
  | .update => "update"
  | .delete => "delete"

/-- All kinds of event. -/
def EventKind.all : List EventKind := [.add, .update, .delete]

/-- The kind of event with a given name. -/
def EventKind.ofName? (name : String) : Option EventKind := all.find? fun k => k.name == name

/-- Something that has happened to a row of a table. -/
structure Event where
  kind : EventKind
  table : String
  old : Option Record
  new : Option Record
deriving DecidableEq

namespace Event

/-- A row has appeared. -/
def add (table : String) (new : Record) : Event := ⟨.add, table, none, some new⟩

/-- A row has changed. -/
def update (table : String) (old new : Record) : Event := ⟨.update, table, some old, some new⟩

/-- A row has disappeared. -/
def delete (table : String) (old : Record) : Event := ⟨.delete, table, some old, none⟩

/-- The event as observers see it, with the records that its kind calls for and no others. An event
that lacks one of them is not shown to anybody. -/
def report? (e : Event) : Option Event :=
  match e.kind, e.old, e.new with
  | .add, _, some new => some (add e.table new)
  | .update, some old, some new => some (update e.table old new)
  | .delete, some old, _ => some (delete e.table old)
  | _, _, _ => none

end Event

end TableReplica
