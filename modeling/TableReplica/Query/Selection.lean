import TableReplica.Replica.Fault

/-!
# Selections

A selection of rows of one table: those that stand for the same row as a reference record, or those
whose record satisfies a predicate. It can be tested against a record, and it can be written down as
clauses for the server, one list of clauses for each row or group of rows. The clauses of a
predicate name the rows that satisfy it at that moment.
-/

namespace TableReplica

/-- The rule by which rows are selected. -/
inductive SelectionRule where
  /-- Rows that a reference record stands for, by fields that are given by name, if any. -/
  | reference (record : Record) (names : List String)
  /-- Rows whose record is of a type and passes a test. -/
  | predicate (type : RecordType) (test : Record → Bool)

/-- A selection of rows of a table. -/
structure Selection where
  binding : Binding
  rule : SelectionRule

namespace Store

/-- The table that a record type is registered for. -/
def tableFor (s : Store) (t : RecordType) : Except InputFault String :=
  match s.registry.tableFor? t with
  | some table => .ok table
  | none => .error (.notRegistered t.name)

/-- The binding of the table that a record type is registered for. -/
def bindingFor (s : Store) (t : RecordType) : Except ReplicaFault Binding := do
  let table ← s.tableFor t
  (s.binding table : Except Fault Binding)

end Store

namespace Selection

/-- The table whose rows are selected. -/
def table (c : Selection) : String := c.binding.table

/-- Selects the rows that a record stands for. -/
def ofRecord (s : Store) (r : Record) (names : List String) : Except ReplicaFault Selection := do
  let binding ← s.bindingFor r.type
  match names.find? fun name => (binding.layout.fieldNamed? name).isNone with
  | some unknown => .error (.core (.fieldNotFound binding.layout.type.name unknown))
  | none => return ⟨binding, .reference r names⟩

/-- Selects the rows whose record passes a test. -/
def ofPredicate (s : Store) (t : RecordType) (test : Record → Bool) :
    Except ReplicaFault Selection := do
  return ⟨← s.bindingFor t, .predicate t test⟩

/-- Whether a record is one of the selected rows. -/
def selects (c : Selection) (r : Record) : Except ReplicaFault Bool :=
  match c.rule with
  | .reference reference names => (c.binding.sameRow reference r names).mapError .core
  | .predicate type test =>
    if r.type = type then .ok (test r) else .error (.input (.otherRecord type.name r.type.name))

/-- The records that a selection holds at, in the given order. -/
def filter (c : Selection) (records : List Record) : Except ReplicaFault (List Record) :=
  records.filterM c.selects

/-- The clauses that select the rows, one list for each operation that is needed. -/
def clauses (c : Selection) (s : Store) : Except ReplicaFault (List (List Clause)) := do
  match c.rule with
  | .reference reference names => return [← c.binding.clauses reference names]
  | .predicate .. =>
    match s.table? c.table with
    | none => .error .notFound
    | some t =>
      let selected ← c.filter t.rows.values
      selected.mapM fun r => (c.binding.clauses r [] : Except Fault _)

/-- A selection that may have turned out to make no sense. Whoever makes a selection gets no fault;
every use of it reports the one that was found then. -/
abbrev Held := Except ReplicaFault Selection

/-- The selection that is held, for use. -/
def Held.use (held : Held) : Except ReplicaFault Selection := held.mapError .condition

end Selection

end TableReplica
