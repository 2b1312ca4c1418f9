import TableReplica.Session.Basic

/-!
# Requests

What can be asked of a server over a session. A request has two halves, between which the session
waits for the server: first it is checked, which leads to a call or to a fault, and then the answer
to the call is received. To make a request is to do both, with the answer that the link has for the
call (`Session.request_eq`).
-/

namespace TableReplica

/-! ## Exchanges -/

namespace Exchange

variable {σ α β : Type}

theorem bind_apply (x : Exchange σ α) (f : α → Exchange σ β) (link : σ) :
    (x >>= f) link = match x link with
      | (.ok a, link) => f a link
      | (.error fault, link) => (.error fault, link) := by
  change ExceptT.bind (m := StateM σ) x f link = _
  simp only [ExceptT.bind, ExceptT.mk, bind, StateT.bind, ExceptT.bindCont]
  cases x link with
  | mk result next => cases result <;> rfl

theorem of_bind_of (x : Except SessionFault α) (f : α → Except SessionFault β) :
    ((of x : Exchange σ α) >>= fun a => of (f a)) = of (x >>= f) := by
  cases x with
  | ok a => rfl
  | error fault => rfl

theorem call_apply [Link σ] (method : String) (params : List Json) (link : σ) :
    call method params link =
      ((Link.call link method params).1.mapError .link, (Link.call link method params).2) := rfl

/-- What the answer to a call is read as. -/
def readAs (read : Json → Except SessionFault α) : Except LinkFault Json → Except SessionFault α
  | .ok value => read value
  | .error fault => .error (.link fault)

/-- An exchange may be a single call, of which the answer is read. -/
theorem call_bind_of [Link σ] (method : String) (params : List Json)
    (read : Json → Except SessionFault α) (link : σ) :
    ((call method params : Exchange σ Json) >>= fun value => of (read value)) link =
      (readAs read (Link.call link method params).1, (Link.call link method params).2) := by
  rw [bind_apply, call_apply]
  cases (Link.call link method params).1 with
  | ok value => rfl
  | error fault => rfl

end Exchange

/-! ## Requests -/

/-- Something that is asked of a server. -/
inductive Request where
  | listDatabases
  | getSchema (database : String)
  | transact (operations : List Operation)
  | monitor (context : Json) (requests : SortedMap String MonitorRequest)
  | cancelMonitor (context : Json)

namespace Request

/-- What is learnt from the answer to a request. -/
def Result : Request → Type
  | .listDatabases => List String
  | .getSchema _ => Schema
  | .transact _ => List Outcome
  | .monitor .. | .cancelMonitor _ => Unit

/-- Checks what a request names against the schema. -/
def check (schema : Schema) : Request → Except SessionFault Unit
  | .transact operations => (schema.checkOperations operations).mapError .invalidOperation
  | _ => .ok ()

/-- The method and the parameters of the call for a request, given the name of the database. -/
def call (database : String) : Request → String × List Json
  | .listDatabases => ("list_dbs", [])
  | .getSchema name => ("get_schema", [.string name])
  | .transact operations => ("transact", .string database :: operations.map Operation.toJson)
  | .monitor context requests =>
    ("monitor",
      [.string database, context, Json.ofMap (requests.mapValues fun _ r => r.toJson)])
  | .cancelMonitor context => ("monitor_cancel", [context])

/-- The rows that the answer to a request reports. -/
def contents? : Request → Except LinkFault Json → Option Changes
  | .monitor .., .ok value => (Changes.read value).toOption
  | _, _ => none

end Request

namespace Session

variable {σ : Type}

/-- The call that a request leads to, unless the session is not connected or finds something wrong
with the request. -/
def callFor (s : Session σ) (q : Request) : Except SessionFault (String × List Json) :=
  if s.connected then (q.check s.schema).map fun _ => q.call s.settings.database
  else .error .disconnected

/-- Takes over the rows that a monitor reports at first. -/
def load (s : Session σ) : Except SessionFault Changes → Session σ × Except SessionFault Unit
  | .ok changes =>
    let (replica, result) := s.replica.populate changes
    ({ s with replica }, result.mapError .replica)
  | .error fault => (s, .error fault)

/-- Receives the answer to the call for a request. -/
def receive (s : Session σ) (answer : Except LinkFault Json) :
    (q : Request) → Session σ × Except SessionFault q.Result
  | .listDatabases =>
    (s, Exchange.readAs
      (fun value => (value.readList Json.readText).mapError (.payload "list_dbs")) answer)
  | .getSchema _ =>
    (s, Exchange.readAs
      (fun value => (Schema.ofJson value).mapError fun cause => .core (.schema cause)) answer)
  | .transact _ =>
    (s, Exchange.readAs
      (fun value => (Outcome.readAll value).mapError (.payload "transact")) answer)
  | .monitor .. =>
    s.load (Exchange.readAs
      (fun value => (Changes.read value).mapError (.payload "monitor")) answer)
  | .cancelMonitor _ =>
    (s, Exchange.readAs
      (fun value => do
        let outcome ← (Outcome.read value).mapError (.payload "monitor_cancel")
        outcome.check.mapError .refused) answer)

section

variable {s : Session σ}

theorem callFor_of_connected (connected : s.connected = true) (q : Request) :
    s.callFor q = (q.check s.schema).map fun _ => q.call s.settings.database := by
  rw [callFor, if_pos connected]

/-- A session that is not connected sends nothing. -/
theorem callFor_of_disconnected (disconnected : s.connected = false) (q : Request) :
    s.callFor q = .error .disconnected := by
  rw [callFor, disconnected, if_neg Bool.false_ne_true]

theorem perform_of_disconnected {α : Type} (disconnected : s.connected = false)
    (exchange : Exchange σ α) : s.perform exchange = (s, .error .disconnected) := by
  rw [perform, disconnected, if_neg Bool.false_ne_true]

/-- What the answer to a request does to a session: rows that it reports are applied. -/
theorem receive_fst (answer : Except LinkFault Json) (q : Request) :
    (s.receive answer q).1 = { s with
      replica := (q.contents? answer).elim s.replica fun changes =>
        (s.replica.populate changes).1 } := by
  cases q with
  | monitor context requests =>
    cases answer with
    | error fault => rfl
    | ok value =>
      change (s.load ((Changes.read value).mapError _)).1 = { s with
        replica := (Changes.read value).toOption.elim s.replica _ }
      cases Changes.read value with
      | ok changes => rfl
      | error fault => rfl
  | listDatabases | getSchema | transact | cancelMonitor => rfl

end

variable [Link σ] (s : Session σ)

/-- Makes a request, with nothing happening in the meantime. -/
def request : (q : Request) → Session σ × Except SessionFault q.Result
  | .listDatabases => s.perform Exchange.listDatabases
  | .getSchema database => s.perform (Exchange.getSchema database)
  | .transact operations => s.transact operations
  | .monitor context requests => s.monitor context requests
  | .cancelMonitor context => s.cancelMonitor context

variable {s}

/-- A connected session makes a call and reads the answer. -/
theorem perform_call {α : Type} (connected : s.connected = true) (method : String)
    (params : List Json) (read : Json → Except SessionFault α) :
    s.perform (Exchange.call method params >>= fun value => Exchange.of (read value)) =
      ({ s with link := (Link.call s.link method params).2 },
        Exchange.readAs read (Link.call s.link method params).1) := by
  rw [perform, if_pos connected, Exchange.call_bind_of]

/-- To monitor is to ask for rows and to take them over. -/
theorem monitor_eq (context : Json) (requests : SortedMap String MonitorRequest) :
    s.monitor context requests =
      let asked := s.perform (Exchange.ask "monitor" [.string s.settings.database, context,
        Json.ofMap (requests.mapValues fun _ r => r.toJson)] Changes.read)
      asked.1.load asked.2 := by
  rw [monitor]
  rcases s.perform _ with ⟨next, changes | fault⟩
  · rfl
  · rfl

theorem request_of_disconnected (disconnected : s.connected = false) (q : Request) :
    s.request q = (s, .error .disconnected) := by
  cases q with
  | listDatabases => exact perform_of_disconnected disconnected Exchange.listDatabases
  | getSchema database => exact perform_of_disconnected disconnected (Exchange.getSchema database)
  | transact operations => exact perform_of_disconnected disconnected _
  | cancelMonitor context =>
    change s.cancelMonitor context = _
    exact perform_of_disconnected disconnected _
  | monitor context requests =>
    change s.monitor context requests = _
    rw [monitor_eq, perform_of_disconnected disconnected]
    rfl

/-- To make a request is to make the call that it leads to, if it leads to one, and to receive the
answer. -/
theorem request_eq (q : Request) : s.request q =
    match s.callFor q with
    | .ok (method, params) =>
      receive { s with link := (Link.call s.link method params).2 }
        (Link.call s.link method params).1 q
    | .error fault => (s, .error fault) := by
  by_cases connected : s.connected = true
  · rw [callFor_of_connected connected]
    cases q with
    | listDatabases =>
      exact perform_call connected "list_dbs" [] fun value =>
        (value.readList Json.readText).mapError (.payload "list_dbs")
    | getSchema database =>
      exact perform_call connected "get_schema" [.string database] fun value =>
        (Schema.ofJson value).mapError fun cause => .core (.schema cause)
    | transact operations =>
      change s.transact operations = _
      rw [transact, Request.check]
      cases s.schema.checkOperations operations with
      | ok =>
        exact perform_call connected "transact" _ fun value =>
          (Outcome.readAll value).mapError (.payload "transact")
      | error cause =>
        rw [perform, if_pos connected]
        rfl
    | monitor context requests =>
      change s.monitor context requests = _
      rw [monitor_eq, Exchange.ask, perform_call connected]
      rfl
    | cancelMonitor context =>
      change s.cancelMonitor context = _
      rw [cancelMonitor, Exchange.ask, bind_assoc]
      simp only [Exchange.of_bind_of]
      exact perform_call connected "monitor_cancel" [context] fun value => do
        let outcome ← (Outcome.read value).mapError (.payload "monitor_cancel")
        outcome.check.mapError .refused
  · have disconnected := eq_false_of_ne_true connected
    rw [callFor_of_disconnected disconnected, request_of_disconnected disconnected]

end Session

end TableReplica
