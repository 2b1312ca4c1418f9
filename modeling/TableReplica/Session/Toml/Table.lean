import TableReplica.Session.Toml.Node

/-!
# Tables in TOML

How a document builds its tree. A name may be given a meaning only once, and a table may be opened
by a header only once. What may still be added to a table depends on how it came to be.
-/

namespace TableReplica.Toml

namespace Members

/-- Replaces what a name stands for, or adds the name. -/
def update? (members : Members) (name : String) (f : Option Node → Option Node) :
    Option Members :=
  match members with
  | [] => (f none).map fun node => [(name, node)]
  | (first, node) :: rest =>
    if first = name then (f (some node)).map fun node => (first, node) :: rest
    else (update? rest name f).map ((first, node) :: ·)

/-- Gives a value to a key. The tables on the way must not have headers of their own, and the one
that gets the value must not be known from a header at all. -/
def define? (value : Node) : List String → Members → Option Members
  | [], _ => none
  | name :: rest, members =>
    members.update? name fun node =>
      match rest, node with
      | [], none => some value
      | [], some _ => none
      | _, none => (define? value rest []).map (.table .dotted)
      | _, some (.table .dotted inner) => (define? value rest inner).map (.table .dotted)
      | [_], _ => none
      | _, some (.table .implied inner) => (define? value rest inner).map (.table .implied)
      | _, some (.series inner earlier) => (define? value rest inner).map (.series · earlier)
      | _, _ => none

/-- Changes the table at a path. Tables on the way that are not there yet are implied. -/
def within? (f : Members → Option Members) : List String → Members → Option Members
  | [], members => f members
  | name :: rest, members =>
    members.update? name fun
      | none => (within? f rest []).map (.table .implied)
      | some (.table .inline _) => none
      | some (.table origin inner) => (within? f rest inner).map (.table origin)
      | some (.series inner earlier) => (within? f rest inner).map (.series · earlier)
      | some _ => none

/-- Opens the table of a name by its header. It may only be implied so far, and its place is now
behind the other members. -/
def open? (members : Members) (name : String) : Option Members :=
  match members.lookup name with
  | none => some (members ++ [(name, .table .header [])])
  | some (.table .implied inner) =>
    some (members.filter (·.1 != name) ++ [(name, .table .header inner)])
  | some _ => none

/-- Opens the next table of the series of a name by its header. -/
def openNext? (members : Members) (name : String) : Option Members :=
  members.update? name fun
    | none => some (.series [] [])
    | some (.series inner earlier) => some (.series [] (.table .header inner :: earlier))
    | some _ => none

/-- Opens a table by a header with this path. -/
def openTable? (members : Members) (path : List String) : Option Members :=
  path.getLast?.bind fun name => members.within? (·.open? name) path.dropLast

/-- Opens the next table of a series by a header with this path. -/
def openSeries? (members : Members) (path : List String) : Option Members :=
  path.getLast?.bind fun name => members.within? (·.openNext? name) path.dropLast

end Members

end TableReplica.Toml
