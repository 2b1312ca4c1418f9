import TableReplica.Delivery.Event
import TableReplica.Record.Binding
import TableReplica.Wire.Change

/-!
# Deltas

What the reported change of one row does to the record that stands for it. This depends on nothing
but the record that was there before: a change whose data cannot be decoded does nothing at all, and
a change of a row that is not there yet starts from the row that the change reports as the old one.
-/

namespace TableReplica

/-- What the change of a row has led to. -/
structure Effect where
  /-- The record that stands for the row from now on. -/
  record : Option Record
  event : Event
deriving DecidableEq

namespace Binding

/-- The record of a row: the columns of the row on top of another record, with the identifier under
which the row is reported. -/
def recordOf (b : Binding) (id : String) (base : Record) (row : WireRow) :
    Except ConversionFault Record := do
  b.setIdentity (← b.decode row base) id

/-- The record that stood for a row before a change: the one that is known, or else the one that the
change reports. -/
def previous (b : Binding) (id : String) (known : Option Record) (old : WireRow) :
    Except ConversionFault Record :=
  match known with
  | some r => .ok r
  | none => b.recordOf id b.layout.blank old

/-- What the change of a row leads to, if it says anything. -/
def effect? (b : Binding) (id : String) (known : Option Record) (c : RowChange) :
    Except ConversionFault (Option Effect) := do
  match c.oldRow?, c.newRow? with
  | none, some new =>
    let r ← b.recordOf id b.layout.blank new
    return some ⟨some r, .add b.table r⟩
  | some old, some new =>
    let before ← b.previous id known old
    let r ← b.recordOf id before new
    return some ⟨some r, .update b.table before r⟩
  | some old, none =>
    let before ← b.previous id known old
    return some ⟨none, .delete b.table before⟩
  | none, none => return none

end Binding

end TableReplica
