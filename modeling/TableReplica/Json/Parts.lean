import TableReplica.Json.Source

/-!
# Records in JSON

A record may be written as an object or as an array of its fields in the order of their
declaration. In an object other members are passed over; in an array fields at the end may be
missing, but nothing may follow the last one.
-/

namespace TableReplica

/-- The parts of a record as it is written. -/
inductive Parts (α : Type) where
  | named (members : List (String × α))
  | listed (items : List α)

namespace Parts

variable {α σ ε : Type}

/-- The parts of a value that can write a record. -/
def ofJson? : Json → Option (Parts Json)
  | .object members => some (.named members)
  | .array items => some (.listed items)
  | _ => none

/-- The parts of a document that can write a record. -/
def ofSource? : Source → Option (Parts Source)
  | .object members => some (.named members)
  | .array items => some (.listed items)
  | _ => none

/-- The fields that are written, in the order in which they are. -/
def labelled (fields : List String) : Parts α → List (String × α)
  | .named members => members.filter fun member => fields.contains member.1
  | .listed items => fields.zip items

/-- Whether no field is written twice and nothing follows the last one. -/
def isProper (fields : List String) : Parts α → Bool
  | .named members => ((Parts.named members).labelled fields |>.map Prod.fst).Nodup
  | .listed items => items.length ≤ fields.length

/-- Reads the fields of a record one by one. -/
def read (fields : List String) (refused : ε) (field : σ → String → α → Except ε σ)
    (initial : σ) (parts : Parts α) : Except ε σ := do
  let s ← (parts.labelled fields).foldlM (fun s part => field s part.1 part.2) initial
  if parts.isProper fields then .ok s else .error refused

/-- The fields of a record by name. -/
def fields? (fields : List String) (parts : Parts α) : Option (SortedMap String α) :=
  if parts.isProper fields then some (.ofList (parts.labelled fields)) else none

end Parts

end TableReplica
