import TableReplica.Wire.Reading

/-!
# Outcomes

What the server answers to the operations of a transaction, one outcome for each of them by its
position, and possibly one more for a fault of the transaction as a whole.
-/

namespace TableReplica

/-- What the server answers to one operation. -/
structure Outcome where
  count : Option UInt64 := none
  fault : Option String := none
  details : Option String := none
  uuid : Option Atom := none
  rows : List WireRow := []
deriving DecidableEq

/-- An operation that failed on the server, in the server's words. -/
structure TransactionFault where
  fault : String
  details : Option String
deriving DecidableEq

/-- The text of a failed operation. -/
def TransactionFault.message (t : TransactionFault) : String :=
  t.fault ++ " (" ++ t.details.getD "no details" ++ ")"

namespace Outcome

/-- The failure that an outcome reports, if any. -/
def check (o : Outcome) : Except TransactionFault Unit :=
  match o.fault with
  | some fault => .error ⟨fault, o.details⟩
  | none => .ok ()

/-- The identifier of the row that the operation has inserted. -/
def rowId? (o : Outcome) : Option String :=
  match o.uuid with
  | some (.uuid id) => some id
  | _ => none

/-- The members of an outcome in the order of their declaration. -/
def fields : List String := ["count", "error", "details", "uuid", "rows"]

/-- Reads one member of an outcome. -/
def readField (o : Outcome) (name : String) (value : Json) : Except ReadFault Outcome :=
  match name with
  | "count" =>
    let readCount (v : Json) : Except ReadFault UInt64 := return .ofNat (← v.readNat)
    return { o with count := ← ReadFault.orNull readCount value }
  | "error" => return { o with fault := ← ReadFault.orNull Json.readText value }
  | "details" => return { o with details := ← ReadFault.orNull Json.readText value }
  | "uuid" => return { o with uuid := ← ReadFault.orNull Atom.read value }
  | "rows" => return { o with rows := ← value.readList WireRow.read }
  | _ => return o

/-- Reads an outcome. -/
def read (value : Json) : Except ReadFault Outcome := value.readRecord fields readField {}

/-- Reads the outcomes of a transaction. -/
def readAll (value : Json) : Except ReadFault (List Outcome) := value.readList read

/-- The JSON value that writes an outcome; what is absent is left out. -/
def toJson (o : Outcome) : Json :=
  .ofMembers <|
    (o.count.map fun n => ("count", Json.number (.ofUnsigned n))).toList
    ++ (o.fault.map fun e => ("error", Json.string e)).toList
    ++ (o.details.map fun d => ("details", Json.string d)).toList
    ++ (o.uuid.map fun a => ("uuid", a.toJson)).toList
    ++ (if o.rows.isEmpty then [] else [("rows", .array (o.rows.map WireRow.toJson))])

end Outcome

end TableReplica
