import TableReplica.Wire.Datum

/-!
# Clauses and mutations

What an operation says about single columns: a clause selects rows by comparing a column, and a
mutation changes a column in place. Both are written as triples.
-/

namespace TableReplica

/-- How a clause compares a column with a datum. -/
inductive Comparison where
  | less
  | lessOrEqual
  | equal
  | notEqual
  | greater
  | greaterOrEqual
  | includes
  | excludes
deriving DecidableEq

namespace Comparison

/-- The name under which a comparison travels. -/
def name : Comparison → String
  | .less => "<"
  | .lessOrEqual => "<="
  | .equal => "=="
  | .notEqual => "!="
  | .greater => ">"
  | .greaterOrEqual => ">="
  | .includes => "includes"
  | .excludes => "excludes"

/-- All comparisons. -/
def all : List Comparison :=
  [.less, .lessOrEqual, .equal, .notEqual, .greater, .greaterOrEqual, .includes, .excludes]

/-- The comparison with a given name. -/
def ofName? (name : String) : Option Comparison := all.find? fun c => c.name == name

end Comparison

/-- How a mutation changes a column. -/
inductive Mutator where
  | add
  | subtract
  | multiply
  | divide
  | modulo
  | insert
  | delete
deriving DecidableEq

namespace Mutator

/-- The name under which a mutator travels. -/
def name : Mutator → String
  | .add => "+="
  | .subtract => "-="
  | .multiply => "*="
  | .divide => "/="
  | .modulo => "%="
  | .insert => "insert"
  | .delete => "delete"

/-- All mutators. -/
def all : List Mutator := [.add, .subtract, .multiply, .divide, .modulo, .insert, .delete]

/-- The mutator with a given name. -/
def ofName? (name : String) : Option Mutator := all.find? fun m => m.name == name

end Mutator

/-- A condition on one column of a row. -/
structure Clause where
  column : String
  comparison : Comparison
  datum : Datum
deriving DecidableEq

/-- The JSON value that writes a clause. -/
def Clause.toJson (c : Clause) : Json :=
  .array [.string c.column, .string c.comparison.name, c.datum.toJson]

/-- A change of one column of a row. -/
structure Mutation where
  column : String
  mutator : Mutator
  datum : Datum
deriving DecidableEq

/-- The JSON value that writes a mutation. -/
def Mutation.toJson (m : Mutation) : Json :=
  .array [.string m.column, .string m.mutator.name, m.datum.toJson]

end TableReplica
