import TableReplica.Wire.Reading

/-!
# Monitor requests

Which columns of a table a client wants to follow, and which kinds of change.
-/

namespace TableReplica

/-- The kinds of change that a monitor reports. -/
structure MonitorSelect where
  initial : Bool := true
  insert : Bool := true
  delete : Bool := true
  modify : Bool := true
deriving DecidableEq

namespace MonitorSelect

/-- The members of a selection in the order of their declaration; none of them may be missing. -/
def fields : List String := ["initial", "insert", "delete", "modify"]

/-- Reads a selection. -/
def read (value : Json) : Except ReadFault MonitorSelect := do
  let given ← value.readRecord fields
    (fun (given : SortedMap String Bool) name value => given.insert name <$> value.readBool) .empty
  let required (name : String) : Except ReadFault Bool := ReadFault.orShape (given.get? name)
  return ⟨← required "initial", ← required "insert", ← required "delete", ← required "modify"⟩

/-- The JSON value that writes a selection. -/
def toJson (s : MonitorSelect) : Json :=
  .ofMembers [("initial", .bool s.initial), ("insert", .bool s.insert), ("delete", .bool s.delete),
    ("modify", .bool s.modify)]

end MonitorSelect

/-- What a client wants to follow of one table; no columns stand for all of them. -/
structure MonitorRequest where
  columns : List String := []
  select : MonitorSelect := {}
deriving DecidableEq

namespace MonitorRequest

/-- The members of a request in the order of their declaration. -/
def fields : List String := ["columns", "select"]

/-- Reads one member of a request. -/
def readField (r : MonitorRequest) (name : String) (value : Json) :
    Except ReadFault MonitorRequest :=
  match name with
  | "columns" => return { r with columns := ← value.readList Json.readText }
  | "select" => return { r with select := ← MonitorSelect.read value }
  | _ => return r

/-- Reads a request. -/
def read (value : Json) : Except ReadFault MonitorRequest := value.readRecord fields readField {}

/-- The JSON value that writes a request. -/
def toJson (r : MonitorRequest) : Json :=
  .ofMembers <|
    (if r.columns.isEmpty then [] else [("columns", .array (r.columns.map .string))])
    ++ [("select", r.select.toJson)]

end MonitorRequest

end TableReplica
