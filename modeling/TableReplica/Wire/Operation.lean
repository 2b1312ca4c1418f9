import TableReplica.Wire.Clause

/-!
# Operations

One step of a transaction. Members that say nothing are left out of the JSON value that writes an
operation, with two exceptions: an insert always has a row, and a selection always has its clauses,
since a selection without any selects every row.
-/

namespace TableReplica

/-- What an operation does. -/
inductive OperationKind where
  | insert
  | select
  | update
  | mutate
  | delete
  | wait
deriving DecidableEq

namespace OperationKind

/-- The name under which a kind of operation travels. -/
def name : OperationKind → String
  | .insert => "insert"
  | .select => "select"
  | .update => "update"
  | .mutate => "mutate"
  | .delete => "delete"
  | .wait => "wait"

/-- All kinds of operation. -/
def all : List OperationKind := [.insert, .select, .update, .mutate, .delete, .wait]

/-- The kind of operation with a given name. -/
def ofName? (name : String) : Option OperationKind := all.find? fun k => k.name == name

end OperationKind

/-- One step of a transaction. -/
structure Operation where
  kind : OperationKind
  table : String
  row : WireRow := .empty
  rows : List WireRow := []
  columns : List String := []
  mutations : List Mutation := []
  timeout : Option UInt64 := none
  clauses : List Clause := []
  until? : Option String := none
  /-- The name by which other steps of the transaction refer to an inserted row; empty if there is
  none. -/
  uuidName : String := ""
deriving DecidableEq

namespace Operation

/-- The members that write an operation, without those that say nothing. -/
def members (o : Operation) : List (String × Json) :=
  let given (present : Bool) (name : String) (value : Json) : List (String × Json) :=
    if present then [(name, value)] else []
  [("op", .string o.kind.name), ("table", .string o.table)]
    ++ given (!o.row.isEmpty || o.kind == .insert) "row" o.row.toJson
    ++ given (!o.rows.isEmpty) "rows" (.array (o.rows.map WireRow.toJson))
    ++ given (!o.columns.isEmpty) "columns" (.array (o.columns.map .string))
    ++ given (!o.mutations.isEmpty) "mutations" (.array (o.mutations.map Mutation.toJson))
    ++ (o.timeout.map fun t => ("timeout", Json.number (.ofUnsigned t))).toList
    ++ given (!o.clauses.isEmpty || o.kind == .select) "where"
      (.array (o.clauses.map Clause.toJson))
    ++ (o.until?.map fun u => ("until", Json.string u)).toList
    ++ given (!o.uuidName.isEmpty) "uuid-name" (.string o.uuidName)

/-- The JSON value that writes an operation. -/
def toJson (o : Operation) : Json := .ofMembers o.members

end Operation

end TableReplica
