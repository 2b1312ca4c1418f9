import TableReplica.Delivery.Roster
import TableReplica.Replica.Store

/-!
# Notices

What a session tells its listeners: the changes that a monitor has reported, a sign of life that the
server has asked for, and the end of the connection.
-/

namespace TableReplica

/-- The kinds of notices. -/
inductive NoticeKind where
  | update
  | echo
  | disconnected
deriving DecidableEq

/-- The name of a kind of notices. -/
def NoticeKind.name : NoticeKind → String
  | .update => "update"
  | .echo => "echo"
  | .disconnected => "disconnected"

/-- All kinds of notices. -/
def NoticeKind.all : List NoticeKind := [.update, .echo, .disconnected]

/-- The kind of notices with a given name. -/
def NoticeKind.ofName? (name : String) : Option NoticeKind := all.find? fun k => k.name == name

/-- Something that a session tells its listeners. -/
inductive Notice where
  /-- The monitor with the given context has reported changes. -/
  | update (context : Json) (changes : Changes)
  | echo (args : List Json)
  | disconnected

/-- The kind of a notice. -/
def Notice.kind : Notice → NoticeKind
  | .update .. => .update
  | .echo _ => .echo
  | .disconnected => .disconnected

/-- A notice that a listener was given. -/
structure Notified where
  call : Call
  notice : Notice
  /-- What the listener finds in the replica at that time. -/
  found : Store

namespace Notice

/-- Gives a notice to the listeners, who find some store in the replica. -/
def give (n : Notice) (found : Store) (r : Roster NoticeKind) :
    Roster NoticeKind × List Notified :=
  let (r, calls) := r.notify n.kind
  (r, calls.map (⟨·, n, found⟩))

/-- The context and the changes of the report of a monitor, if it is a proper one. -/
def ofReport? : Json → Option Notice
  | .array (context :: changes :: _) => (Changes.read changes).toOption.map (update context)
  | _ => none

end Notice

end TableReplica
