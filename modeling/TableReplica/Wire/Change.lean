import TableReplica.Wire.Reading

/-!
# Changes

What a monitor reports: for each table and each row of it the row before and after the change. A row
without columns says as little as no row at all.
-/

namespace TableReplica

/-- The change of one row. -/
structure RowChange where
  old : Option WireRow := none
  new : Option WireRow := none
deriving DecidableEq

/-- The changes of the rows of one table by row identifier. -/
abbrev TableChanges := SortedMap String RowChange

/-- The changes of a database by table name. -/
abbrev Changes := SortedMap String TableChanges

namespace RowChange

/-- A row that appears. -/
def insert (new : WireRow) : RowChange := ⟨none, some new⟩

/-- A row whose columns in `old` had these data before. -/
def modify (old new : WireRow) : RowChange := ⟨some old, some new⟩

/-- A row that disappears. -/
def delete (old : WireRow) : RowChange := ⟨some old, none⟩

/-- The row after the change, unless it is absent or empty. -/
def newRow? (c : RowChange) : Option WireRow := c.new.filter fun row => !row.isEmpty

/-- The row before the change, unless it is absent or empty. -/
def oldRow? (c : RowChange) : Option WireRow := c.old.filter fun row => !row.isEmpty

/-- The members of a change in the order of their declaration. -/
def fields : List String := ["old", "new"]

/-- Reads one member of a change. -/
def readField (c : RowChange) (name : String) (value : Json) : Except ReadFault RowChange :=
  match name with
  | "old" => return { c with old := ← ReadFault.orNull WireRow.read value }
  | "new" => return { c with new := ← ReadFault.orNull WireRow.read value }
  | _ => return c

/-- Reads a change. -/
def read (value : Json) : Except ReadFault RowChange := value.readRecord fields readField {}

/-- The JSON value that writes a change; a row that is absent is left out. -/
def toJson (c : RowChange) : Json :=
  .ofMembers <|
    (c.old.map fun row => ("old", row.toJson)).toList
    ++ (c.new.map fun row => ("new", row.toJson)).toList

end RowChange

namespace Changes

/-- Reads the changes of a database. -/
def read (value : Json) : Except ReadFault Changes :=
  value.readMap fun table => table.readMap RowChange.read

/-- The JSON value that writes the changes of a database. -/
def toJson (changes : Changes) : Json :=
  .ofMap (changes.mapValues fun _ table => .ofMap (table.mapValues fun _ c => c.toJson))

end Changes

end TableReplica
