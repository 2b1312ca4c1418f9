import TableReplica.Replica.Basic
import TableReplica.Schema.Operations
import TableReplica.Session.Link
import TableReplica.Session.Notice
import TableReplica.Session.Settings
import TableReplica.Wire.Monitor
import TableReplica.Wire.Outcome

/-!
# Sessions

A session binds the record types of an application to one database of a server. Connecting checks
the settings and the name of the database before anything is sent, asks the server for its databases
and for the schema, and checks the record types against it if the settings say so. Whatever goes
wrong, the link is closed; only a buffer of events that cannot exist stops everything on the spot.
-/

namespace TableReplica

/-- What can go wrong in a session. -/
inductive SessionFault where
  | core (cause : Fault)
  | replica (cause : ReplicaFault)
  | link (cause : LinkFault)
  | databaseNotFound (name : String)
  /-- The record types are meant for another database. -/
  | modelMismatch (model database : String)
  /-- An operation names something that the schema does not have. -/
  | invalidOperation (cause : LookupFault)
  /-- The server has refused what was asked of it. -/
  | refused (cause : TransactionFault)
  /-- The answer to a call does not have the right shape. -/
  | payload (method : String) (cause : ReadFault)
  | settings (cause : SettingsFault)
  | disconnected

/-- The text of the fault, if it has one. -/
def SessionFault.message? : SessionFault → Option String
  | .core cause => cause.message?.map ("core error: " ++ ·)
  | .replica cause => cause.message?.map ("cache error: " ++ ·)
  | .link cause => some ("transport error: " ++ cause.message)
  | .databaseNotFound name => some ("database " ++ name ++ " not found on the server")
  | .modelMismatch model database =>
    some ("model is declared for database " ++ model ++ ", client is bound to " ++ database)
  | .invalidOperation cause => some ("invalid operation: " ++ cause.message)
  | .refused cause => some ("server reported an error: " ++ cause.message)
  | .payload method cause =>
    cause.message?.map fun text => "malformed " ++ method ++ " payload: " ++ text
  | .settings cause => cause.message?
  | .disconnected => some "client is disconnected"

/-! ## Exchanges -/

/-- What is done over a link and may fail. -/
abbrev Exchange (σ : Type) := ExceptT SessionFault (StateM σ)

namespace Exchange

variable {σ : Type} [Link σ]

/-- Calls a method of the server. -/
def call (method : String) (params : List Json) : Exchange σ Json := fun link =>
  let (answer, link) := Link.call link method params
  (answer.mapError .link, link)

/-- What has succeeded or failed without the link. -/
def of {α : Type} (result : Except SessionFault α) : Exchange σ α := fun link => (result, link)

/-- Calls a method of the server and reads the answer. -/
def ask {α : Type} (method : String) (params : List Json) (read : Json → Except ReadFault α) :
    Exchange σ α := do
  let answer ← call method params
  of ((read answer).mapError (.payload method))

/-- The databases of the server. -/
def listDatabases : Exchange σ (List String) :=
  ask "list_dbs" [] fun answer => answer.readList Json.readText

/-- The schema of a database. -/
def getSchema (database : String) : Exchange σ Schema := do
  let answer ← call "get_schema" [.string database]
  of ((Schema.ofJson answer).mapError fun cause => .core (.schema cause))

/-- What has to be known to connect: that everything is in order, and the schema of the database. -/
def connect (registry : Registry) (settings : Settings) : Exchange σ Replica := do
  of (settings.check.mapError .settings)
  if registry.name ≠ settings.database then
    throw (.modelMismatch registry.name settings.database)
  if !(← listDatabases).contains settings.database then
    throw (.databaseNotFound settings.database)
  let schema ← getSchema settings.database
  if settings.validateModel then
    of ((registry.validate schema).mapError fun cause => .core (.registration cause))
  of ((Replica.new schema registry settings.eventBuffer.toNat).mapError .replica)

end Exchange

/-! ## Sessions -/

/-- A session with a server over a link. -/
structure Session (σ : Type) where
  link : σ
  settings : Settings
  replica : Replica
  listeners : Roster NoticeKind := {}
  /-- Whether notices are still taken in. -/
  connected : Bool := true

namespace Session

variable {σ : Type} [Link σ]

/-- Connects to the database of the settings. Events of the replica are delivered from now on. -/
def connect (link : σ) (registry : Registry) (settings : Settings) :
    Except SessionFault (Session σ) × σ :=
  match (Exchange.connect registry settings : Exchange σ Replica) link with
  | (.ok replica, link) =>
    (.ok {
      link, settings
      replica := { replica with delivery := replica.delivery.runElsewhere } }, link)
  | (.error (.replica .hugeEventBuffer), link) => (.error (.replica .hugeEventBuffer), link)
  | (.error fault, link) => (.error fault, Link.close link)

/-- The schema of the database. -/
def schema (s : Session σ) : Schema := s.replica.store.schema

/-- Does something over the link, provided that the session is connected. -/
def perform {α : Type} (s : Session σ) (exchange : Exchange σ α) :
    Session σ × Except SessionFault α :=
  if s.connected then
    let (result, link) := exchange s.link
    ({ s with link }, result)
  else (s, .error .disconnected)

/-- Sends operations as one transaction, unless one of them names something that the schema does not
have. -/
def transact (s : Session σ) (operations : List Operation) :
    Session σ × Except SessionFault (List Outcome) :=
  s.perform do
    Exchange.of ((s.schema.checkOperations operations).mapError .invalidOperation)
    Exchange.ask "transact" (.string s.settings.database :: operations.map Operation.toJson)
      Outcome.readAll

/-- Starts a monitor and takes over the rows that it reports at first. -/
def monitor (s : Session σ) (context : Json) (requests : SortedMap String MonitorRequest) :
    Session σ × Except SessionFault Unit :=
  let request := Json.ofMap (requests.mapValues fun _ r => r.toJson)
  let params := [.string s.settings.database, context, request]
  match s.perform (Exchange.ask "monitor" params Changes.read) with
  | (s, .ok changes) =>
    let (replica, result) := s.replica.populate changes
    ({ s with replica }, result.mapError .replica)
  | (s, .error fault) => (s, .error fault)

/-- Starts a monitor of all columns of all tables that the application follows. -/
def monitorAll (s : Session σ) (context : Json) : Session σ × Except SessionFault Unit :=
  s.monitor context <|
    s.replica.store.tables.mapValues fun _ t => { columns := t.binding.schema.columns.keys }

/-- Ends a monitor. -/
def cancelMonitor (s : Session σ) (context : Json) : Session σ × Except SessionFault Unit :=
  s.perform do
    let outcome ← Exchange.ask "monitor_cancel" [context] Outcome.read
    Exchange.of (outcome.check.mapError .refused)

/-! ## Notices from the server -/

/-- Stops taking in notices and delivering events, and tells the listeners. -/
def stop (s : Session σ) : Session σ × List Notified :=
  if s.connected then
    let (listeners, notified) := Notice.disconnected.give s.replica.store s.listeners
    ({ s with
        listeners, connected := false
        replica := { s.replica with delivery := s.replica.delivery.haltElsewhere } }, notified)
  else (s, [])

/-- Stops taking in notices and closes the link. -/
def disconnect (s : Session σ) : Session σ × List Notified :=
  let (s, notified) := s.stop
  ({ s with link := Link.close s.link }, notified)

/-- Gives a notice to the listeners. -/
def tell (s : Session σ) (notice : Notice) : Session σ × List Notified :=
  let (listeners, notified) := notice.give s.replica.store s.listeners
  ({ s with listeners }, notified)

/-- Takes in the report of a monitor: changes are applied as far as possible, and the listeners are
told. What is no report is ignored. -/
def takeReport (s : Session σ) (report : Json) : Session σ × List Notified :=
  match s.connected, Notice.ofReport? report with
  | true, some (.update context changes) =>
    { s with replica := (s.replica.populate changes).1 }.tell (.update context changes)
  | _, _ => (s, [])

/-- Takes in a request for a sign of life, which is what the server gets back. -/
def takeEcho (s : Session σ) (args : List Json) : Session σ × List Notified × Option (List Json) :=
  if s.connected then
    let (s, notified) := s.tell (.echo args)
    (s, notified, some args)
  else (s, [], none)

/-- Delivers all events that wait. -/
def settle (s : Session σ) : Session σ × List Delivered :=
  let (replica, delivered) := s.replica.settle
  ({ s with replica }, delivered)

end Session

end TableReplica
