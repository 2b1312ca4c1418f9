import TableReplica.Session.Setting
import TableReplica.Session.Toml.Moment

/-!
# Trees of a document

What a document says, as a tree, and what the tree sets. A table whose first member has a certain
name is no table but a point in time, wherever it stands. A document can be read only if all such
tables in it can be.
-/

namespace TableReplica.Toml

/-- How a table came to be. This decides what may still be added to it. -/
inductive Origin where
  /-- It has a header of its own. -/
  | header
  /-- A header of a table inside it names it. -/
  | implied
  /-- A key with points names it. -/
  | dotted
  /-- It is written as a value, to which nothing may be added. -/
  | inline

/-- What a name stands for. -/
inductive Node where
  | text (s : String)
  | whole (i : Int64)
  | real (r : Real64)
  | truth (b : Bool)
  /-- A point in time in its usual form. -/
  | moment (form : String)
  | array (elements : List Node)
  | table (origin : Origin) (members : List (String × Node))
  /-- A series of tables with headers: the members of the last one, and the tables before it. -/
  | series (members : List (String × Node)) (earlier : List Node)

/-- The members of a table, in the order of their first mention. -/
abbrev Members := List (String × Node)

namespace Node

/-- The name of the member that makes a table a point in time, if it is the first one. -/
def momentName : String := "$__toml_private_datetime"

/-- What a table sets that is a point in time; the node is that of its first member. -/
def momentSetting? : Node → Option Setting
  | .text s => (Moment.form? s.toList).map fun form => .text (String.ofList form)
  | _ => none

/-- The list of these settings. -/
def listOf (elements : List Setting) : Setting :=
  .list elements.length (elements.zipIdx.map fun (setting, index) => (index, setting))

mutual

/-- What a node sets. -/
def setting? : Node → Option Setting
  | .text s => some (.text s)
  | .whole i => some (.whole i)
  | .real r => some (.real r)
  | .truth b => some (.truth b)
  | .moment form => some (.text form)
  | .array elements => (settings? elements).map listOf
  | .table _ members => tableSetting? members
  | .series members earlier => do
    let last ← tableSetting? members
    return listOf ((← settings? earlier).reverse ++ [last])

/-- What a table with these members sets. -/
def tableSetting? : Members → Option Setting
  | [] => some (.table [])
  | (name, node) :: rest =>
    if name = momentName then node.momentSetting?
    else do
      let setting ← node.setting?
      return .table ((name, setting) :: (← memberSettings? rest))

/-- What each of these members sets. -/
def memberSettings? : Members → Option (List (String × Setting))
  | [] => some []
  | (name, node) :: rest => do
    let setting ← node.setting?
    return (name, setting) :: (← memberSettings? rest)

/-- What each of these nodes sets. -/
def settings? : List Node → Option (List Setting)
  | [] => some []
  | node :: rest => do
    let setting ← node.setting?
    return setting :: (← settings? rest)

end

end Node

/-- What a document with these members at its top sets. It has to be a table. -/
def Members.settings? (members : Members) : Option (List (String × Setting)) :=
  if members.head?.any (·.1 == Node.momentName) then none else Node.memberSettings? members

end TableReplica.Toml
