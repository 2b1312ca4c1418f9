import TableReplica.Wire.Reading

/-!
# Settings

What a session needs to know before it connects. Only the name of the database has no default.
-/

namespace TableReplica

/-- The settings of a session. -/
structure Settings where
  /-- The database to connect to. -/
  database : String
  /-- How many events may wait for delivery. -/
  eventBuffer : UInt64 := 65536
  /-- Whether the record types are checked against the schema of the server. -/
  validateModel : Bool := true
deriving DecidableEq

/-- Why there are no settings. -/
inductive SettingsFault where
  | unreadable
  /-- A source sets an element of a list at a place that the list does not have. -/
  | noSuchPlace
  | zeroEventBuffer
deriving DecidableEq

/-- The text of the fault, if it has one. -/
def SettingsFault.message? : SettingsFault → Option String
  | .unreadable | .noSuchPlace => none
  | .zeroEventBuffer => some "configuration error: event_buffer must be greater than zero"

namespace Settings

/-- Checks that some event may wait. -/
def check (s : Settings) : Except SettingsFault Unit :=
  if s.eventBuffer = 0 then .error .zeroEventBuffer else .ok ()

/-- The members of settings in the order of their declaration. -/
def fields : List String := ["database", "event_buffer", "validate_model"]

/-- Reads one member of settings. The name of the database is noted apart, since it has to be
given. -/
def readField (s : Option String × Settings) (name : String) (value : Json) :
    Except ReadFault (Option String × Settings) :=
  match name with
  | "database" => return (some (← value.readText), s.2)
  | "event_buffer" => return (s.1, { s.2 with eventBuffer := .ofNat (← value.readNat) })
  | "validate_model" => return (s.1, { s.2 with validateModel := ← value.readBool })
  | _ => return s

/-- Reads settings. -/
def read (value : Json) : Except ReadFault Settings := do
  let (database, settings) ← value.readRecord fields readField (none, { database := "" })
  return { settings with database := ← ReadFault.orShape database }

end Settings

end TableReplica
