import TableReplica.Query.Selection

/-!
# Listing and finding records

Reading of the replica by record type. A listing appends to what a caller has already, up to a limit
on the length of the whole. Finding looks a record up by its identifier, if it has one, and
otherwise searches for the first record that stands for the same row; what is found takes the place
of the record as a whole.
-/

namespace TableReplica

namespace Store

/-- Whether there is no room for another record. -/
def isFull (limit : Option Nat) (records : List Record) : Bool :=
  limit.any fun limit => limit ≤ records.length

/-- Whether a record is asked for: one that is selected, if there is a selection. -/
def asksFor (selection : Option Selection) (r : Record) : Except ReplicaFault Bool :=
  match selection with
  | some c => c.selects r
  | none => .ok true

/-- Appends the candidates of a type that a test accepts, until the limit is reached. If the test
fails, what has been appended until then is there all the same. -/
def fill (t : RecordType) (limit : Option Nat) (accepts : Record → Except ReplicaFault Bool) :
    List Record → List Record → List Record × Except ReplicaFault Unit
  | records, [] => (records, .ok ())
  | records, candidate :: rest =>
    if isFull limit records then (records, .ok ())
    else
      match accepts candidate with
      | .error fault => (records, .error fault)
      | .ok accepted =>
        fill t limit accepts
          (if accepted ∧ candidate.type = t then records ++ [candidate] else records) rest

/-- The limit on the length of a list that its capacity makes; a list of no capacity grows as it
has to. -/
def limitOf (capacity : Nat) : Option Nat := if capacity = 0 then none else some capacity

/-- The table whose records are listed: that of a type, which has to be that of the selection as
well, if there is one. -/
def listedTable (s : Store) (t : RecordType) (selection : Option Selection) :
    Except ReplicaFault StoredTable :=
  match s.tableFor t with
  | .error fault => .error (.input fault)
  | .ok table =>
    match selection.filter fun c => c.table ≠ table with
    | some other => .error (.input (.otherResult other.table table))
    | none =>
      match s.table? table with
      | some stored => .ok stored
      | none => .error .notFound

/-- Appends the records of a type to others, all of them or those that are selected, as long as the
length of the whole is below the limit: the list afterwards, and whether something has gone
wrong. -/
def appendUpTo (s : Store) (t : RecordType) (selection : Option Selection) (limit : Option Nat)
    (before : List Record) : List Record × Except ReplicaFault Unit :=
  match s.listedTable t selection with
  | .error fault => (before, .error fault)
  | .ok stored => fill t limit (asksFor selection) before stored.rows.values

/-- Lists the records of a type into the list of a caller, which has some capacity and some records
already. -/
def append (s : Store) (t : RecordType) (held? : Option Selection.Held) (capacity : Nat)
    (before : List Record) : List Record × Except ReplicaFault Unit :=
  match held?.mapM Selection.Held.use with
  | .error fault => (before, .error fault)
  | .ok selection => s.appendUpTo t selection (limitOf capacity) before

/-- A list that has been appended to, for callers who do not look at it if something has gone
wrong. -/
def allOrNothing (appended : List Record × Except ReplicaFault Unit) :
    Except ReplicaFault (List Record) :=
  (fun _ => appended.1) <$> appended.2

/-- The list that `fill` makes if the test does not fail. -/
def collect (t : RecordType) (limit : Option Nat) (accepts : Record → Except ReplicaFault Bool)
    (records candidates : List Record) : Except ReplicaFault (List Record) :=
  allOrNothing (fill t limit accepts records candidates)

/-- The list that `appendUpTo` makes if nothing goes wrong. -/
def list (s : Store) (t : RecordType) (selection : Option Selection) (limit : Option Nat)
    (before : List Record) : Except ReplicaFault (List Record) :=
  allOrNothing (s.appendUpTo t selection limit before)

/-- The first candidate that stands for the same row as a record. -/
def search (b : Binding) (r : Record) : List Record → Except ReplicaFault Record
  | [] => .error .notFound
  | candidate :: rest =>
    if candidate.type = r.type then
      match b.sameRow r candidate [] with
      | .error fault => .error (.core fault)
      | .ok true => .ok candidate
      | .ok false => search b r rest
    else search b r rest

/-- The stored record that stands for the same row as a record. -/
def find (s : Store) (r : Record) : Except ReplicaFault Record := do
  let table ← s.tableFor r.type
  let b ← (s.binding table : Except Fault Binding)
  let id := b.identity r
  if id ≠ "" then
    match s.rowAs? r.type table id with
    | some found => return found
    | none => .error .notFound
  else
    match s.table? table with
    | some stored => search b r stored.rows.values
    | none => .error .notFound

/-- The record that takes the place of another one: the stored record that stands for the same row,
or that one itself if none is found. -/
def overwrite (s : Store) (r : Record) : Record × Except ReplicaFault Unit :=
  match s.find r with
  | .ok found => (found, .ok ())
  | .error fault => (r, .error fault)

end Store

end TableReplica
