import TableReplica.Json.Print
import TableReplica.Sorted.Map

/-!
# Links

The link over which a session talks to its server: a call of a method has an answer or fails, and a
link that has been closed stays closed. Sessions work over any type of links; a `ScriptedLink` is
one whose answers are fixed in advance, with a record of everything that has gone over it.
-/

namespace TableReplica

/-- Why a call has no answer. -/
inductive LinkFault where
  | closed
  /-- The server refuses the call. -/
  | server (reason : Json)
  | other (reason : String)
deriving DecidableEq

/-- The text of the fault. -/
def LinkFault.message : LinkFault → String
  | .closed => "connection closed"
  | .server reason => "server error: " ++ reason.text
  | .other reason => "transport failure: " ++ reason

/-- The types of links. -/
class Link (σ : Type) where
  /-- Calls a method with parameters. -/
  call : σ → String → List Json → Except LinkFault Json × σ
  /-- Closes the link. -/
  close : σ → σ

/-- Something that has gone over a link. -/
inductive Traffic where
  | call (method : String) (params : List Json)
  | close
deriving DecidableEq

/-- A link whose answers are fixed in advance. -/
structure ScriptedLink where
  /-- The answers that are still to be given, by method. -/
  answers : SortedMap String (List (Except LinkFault Json))
  closed : Bool := false
  /-- What has gone over the link, in order. -/
  log : List Traffic := []

namespace ScriptedLink

/-- Calls a method: the next answer of the script is given, unless there is none left. -/
def call (l : ScriptedLink) (method : String) (params : List Json) :
    Except LinkFault Json × ScriptedLink :=
  if l.closed then (.error .closed, l)
  else
    let l := { l with log := l.log ++ [Traffic.call method params] }
    match l.answers.get? method with
    | some (answer :: rest) => (answer, { l with answers := l.answers.insert method rest })
    | _ => (.error (.other ("no reply scripted for " ++ method)), l)

/-- Closes the link. -/
def close (l : ScriptedLink) : ScriptedLink :=
  { l with closed := true, log := l.log ++ [Traffic.close] }

instance : Link ScriptedLink := ⟨call, close⟩

end ScriptedLink

end TableReplica
