import TableReplica.Proofs.Replica.Creation
import TableReplica.Proofs.Session.Requests

/-!
# What connecting takes

To connect is to go through three parts, with a call before each but the first
(`Exchange.connect_apply`): the settings are checked against the registry, the database is looked
for, and a replica is made for the schema. The first two find no fault with the replica, and the
last one does so only if everything else is in order (`Connecting.build_eq_replica_iff`).
-/

namespace TableReplica

namespace Connecting

/-- What is checked before anything is sent. -/
def precheck (registry : Registry) (settings : Settings) : Except SessionFault Unit := do
  settings.check.mapError .settings
  if registry.name ≠ settings.database then
    throw (.modelMismatch registry.name settings.database)

/-- Looks for the database among those that a server lists. -/
def find (settings : Settings) (answer : Except LinkFault Json) : Except SessionFault Unit := do
  let names ← Exchange.readAs
    (fun value => (value.readList Json.readText).mapError (.payload "list_dbs")) answer
  if !names.contains settings.database then throw (.databaseNotFound settings.database)

/-- Reads the schema that a server gives. -/
def readSchema (answer : Except LinkFault Json) : Except SessionFault Schema :=
  Exchange.readAs (fun value => (Schema.ofJson value).mapError fun cause => .core (.schema cause))
    answer

/-- Checks the registry against the schema if the settings say so. -/
def validate (registry : Registry) (settings : Settings) (schema : Schema) :
    Except SessionFault Unit :=
  if settings.validateModel then
    (registry.validate schema).mapError fun cause => .core (.registration cause)
  else .ok ()

/-- Makes a replica for the schema that a server gives. -/
def build (registry : Registry) (settings : Settings) (answer : Except LinkFault Json) :
    Except SessionFault Replica := do
  let schema ← readSchema answer
  validate registry settings schema
  (Replica.new schema registry settings.eventBuffer.toNat).mapError .replica

end Connecting

/-! ## Over a link -/

namespace Exchange

variable {σ : Type} [Link σ]

theorem listDatabases_apply (link : σ) : (listDatabases : Exchange σ (List String)) link =
    let (answer, link) := Link.call link "list_dbs" []
    (readAs (fun value => (value.readList Json.readText).mapError (.payload "list_dbs")) answer,
      link) :=
  call_bind_of "list_dbs" [] _ link

theorem getSchema_apply (database : String) (link : σ) :
    (getSchema database : Exchange σ Schema) link =
      let (answer, link) := Link.call link "get_schema" [.string database]
      (Connecting.readSchema answer, link) :=
  call_bind_of "get_schema" [.string database] _ link

/-- A session is connected in three parts, with a call before each but the first. -/
theorem connect_apply (registry : Registry) (settings : Settings) (link : σ) :
    (connect registry settings : Exchange σ Replica) link =
      match Connecting.precheck registry settings with
      | .error cause => (.error cause, link)
      | .ok () =>
        let (first, link) := Link.call link "list_dbs" []
        match Connecting.find settings first with
        | .error cause => (.error cause, link)
        | .ok () =>
          let (second, link) := Link.call link "get_schema" [.string settings.database]
          (Connecting.build registry settings second, link) := by
  rw [connect, Connecting.precheck]
  cases settings.check with
  | error cause => rfl
  | ok =>
    by_cases named : registry.name ≠ settings.database
    · rw [if_pos named]
      simp only [if_pos named]
      rfl
    · simp only [if_neg named]
      change (listDatabases >>= _) link = _
      rw [bind_apply, listDatabases_apply]
      generalize Link.call link "list_dbs" [] = listed
      obtain ⟨first, link⟩ := listed
      dsimp only [Connecting.find]
      cases readAs (fun value =>
        (value.readList Json.readText).mapError (SessionFault.payload "list_dbs")) first with
      | error cause => rfl
      | ok names =>
        by_cases missing : (!names.contains settings.database) = true
        · simp only [Except.ok_bind, if_pos missing]
          rfl
        · simp only [Except.ok_bind, if_neg missing]
          rw [bind_apply, getSchema_apply]
          generalize Link.call link "get_schema" [.string settings.database] = fetched
          obtain ⟨second, link⟩ := fetched
          dsimp only [Connecting.build]
          cases Connecting.readSchema second with
          | error cause => rfl
          | ok schema =>
            simp only [Except.ok_bind, Connecting.validate]
            by_cases asked : settings.validateModel = true
            · simp only [if_pos asked]
              cases registry.validate schema <;> rfl
            · simp only [if_neg asked]
              rfl

end Exchange

/-! ## What is found -/

/-- A server answers that it has a database. -/
def ListsDatabase (database : String) (answer : Except LinkFault Json) : Prop :=
  ∃ value names, answer = .ok value ∧ value.readList Json.readText = .ok names ∧ database ∈ names

/-- A server answers with a schema. -/
def GivesSchema (schema : Schema) (answer : Except LinkFault Json) : Prop :=
  ∃ value, answer = .ok value ∧ Schema.ofJson value = .ok schema

/-- A schema has a table for every record type, and passes the validation of the registry if the
settings ask for it. -/
structure Schema.Suits (schema : Schema) (registry : Registry) (settings : Settings) : Prop where
  tables : ∀ table ∈ registry.tables, ∃ t, schema.table? table = some t
  valid : settings.validateModel = true → registry.validate schema = .ok ()

theorem Exchange.readAs_eq_ok_iff {α : Type} {read : Json → Except SessionFault α}
    {answer : Except LinkFault Json} {a : α} :
    readAs read answer = .ok a ↔ ∃ value, answer = .ok value ∧ read value = .ok a := by
  cases answer with
  | ok value => simp [readAs]
  | error cause => simp [readAs]

theorem mapError_eq_replica_iff {α : Type} {x : Except ReplicaFault α} {cause : ReplicaFault} :
    x.mapError SessionFault.replica = .error (.replica cause) ↔ x = .error cause := by
  cases x <;> simp [Except.mapError]

/-- A computation that does not find fault with the replica. -/
def Innocent {α : Type} (x : Except SessionFault α) : Prop :=
  ∀ cause, x ≠ .error (.replica cause)

namespace Innocent

variable {ε α β : Type} {x : Except SessionFault α}

theorem ok (a : α) : Innocent (.ok a) := nofun

theorem error {cause : SessionFault} (other : ∀ c, cause ≠ .replica c) :
    Innocent (.error cause : Except SessionFault α) :=
  fun c same => other c (Except.error.inj same)

theorem mapError (y : Except ε α) {wrap : ε → SessionFault} (other : ∀ e c, wrap e ≠ .replica c) :
    Innocent (y.mapError wrap) := by
  cases y with
  | ok a => exact .ok a
  | error e => exact .error (other e)

theorem readAs {read : Json → Except SessionFault α} (each : ∀ value, Innocent (read value))
    (answer : Except LinkFault Json) : Innocent (Exchange.readAs read answer) := by
  cases answer with
  | ok value => exact each value
  | error cause => exact .error nofun

theorem bind {f : α → Except SessionFault β} (first : Innocent x) (next : ∀ a, Innocent (f a)) :
    Innocent (x >>= f) := by
  cases x with
  | ok a => exact next a
  | error cause => exact .error fun c same => first c (same ▸ rfl)

theorem bind_eq_replica_iff {f : α → Except SessionFault β} {cause : ReplicaFault}
    (first : Innocent x) : x >>= f = .error (.replica cause) ↔
      ∃ a, x = .ok a ∧ f a = .error (.replica cause) := by
  rw [Except.bind_eq_error_iff, or_iff_right (first cause)]

theorem ne_huge {cause : SessionFault} (innocent : Innocent x) (failed : x = .error cause) :
    cause ≠ .replica .hugeEventBuffer :=
  fun same => innocent _ (same ▸ failed)

end Innocent

namespace Connecting

variable {registry : Registry} {settings : Settings} {answer : Except LinkFault Json}

theorem precheck_eq_ok_iff : precheck registry settings = .ok () ↔
    settings.eventBuffer ≠ 0 ∧ registry.name = settings.database := by
  rw [precheck, Settings.check]
  by_cases zero : settings.eventBuffer = 0
  · rw [if_pos zero]
    exact ⟨nofun, fun fine => absurd zero fine.1⟩
  · rw [if_neg zero]
    by_cases named : registry.name = settings.database
    · rw [if_neg (not_not_intro named)]
      exact ⟨fun _ => ⟨zero, named⟩, fun _ => rfl⟩
    · rw [if_pos named]
      exact ⟨nofun, fun fine => absurd fine.2 named⟩

theorem find_eq_ok_iff :
    find settings answer = .ok () ↔ ListsDatabase settings.database answer := by
  rw [find, Except.bind_eq_ok_iff]
  simp only [Exchange.readAs_eq_ok_iff, Except.mapError_eq_ok_iff]
  constructor
  · rintro ⟨names, ⟨value, answered, read⟩, listed⟩
    refine ⟨value, names, answered, read, ?_⟩
    by_contra missing
    rw [if_pos (by simpa using missing)] at listed
    cases listed
  · rintro ⟨value, names, answered, read, member⟩
    refine ⟨names, ⟨value, answered, read⟩, ?_⟩
    rw [if_neg (by simpa using member)]
    rfl

theorem readSchema_eq_ok_iff {schema : Schema} :
    readSchema answer = .ok schema ↔ GivesSchema schema answer := by
  simp only [readSchema, Exchange.readAs_eq_ok_iff, Except.mapError_eq_ok_iff, GivesSchema]

theorem validate_eq_ok_iff {schema : Schema} : validate registry settings schema = .ok () ↔
    (settings.validateModel = true → registry.validate schema = .ok ()) := by
  rw [validate]
  split
  next asked => rw [Except.mapError_eq_ok_iff, imp_iff_right asked]
  next unasked => exact iff_of_true rfl fun asked => absurd asked unasked

theorem build_eq_ok_iff {p : Replica} : build registry settings answer = .ok p ↔
    ∃ schema, GivesSchema schema answer
      ∧ (settings.validateModel = true → registry.validate schema = .ok ())
      ∧ Replica.new schema registry settings.eventBuffer.toNat = .ok p := by
  simp only [build, Except.bind_eq_ok_iff, readSchema_eq_ok_iff, Except.mapError_eq_ok_iff]
  exact exists_congr fun schema => and_congr_right fun _ =>
    ⟨fun ⟨(), valid, made⟩ => ⟨validate_eq_ok_iff.mp valid, made⟩,
      fun ⟨valid, made⟩ => ⟨(), validate_eq_ok_iff.mpr valid, made⟩⟩

theorem precheck_innocent : Innocent (precheck registry settings) := by
  refine .bind (.mapError _ nofun) fun _ => ?_
  split
  · exact .error nofun
  · exact .ok ()

theorem find_innocent : Innocent (find settings answer) := by
  refine .bind (.readAs (fun _ => .mapError _ nofun) answer) fun _ => ?_
  split
  · exact .error nofun
  · exact .ok ()

/-- The replica is to blame only if everything else is in order. -/
theorem build_eq_replica_iff {cause : ReplicaFault} :
    build registry settings answer = .error (.replica cause) ↔
      ∃ schema, GivesSchema schema answer
        ∧ (settings.validateModel = true → registry.validate schema = .ok ())
        ∧ Replica.new schema registry settings.eventBuffer.toNat = .error cause := by
  have read : Innocent (readSchema answer) := .readAs (fun _ => .mapError _ nofun) answer
  rw [build, read.bind_eq_replica_iff]
  simp only [readSchema_eq_ok_iff]
  refine exists_congr fun schema => and_congr_right fun _ => ?_
  have checked : Innocent (validate registry settings schema) := by
    rw [validate]
    split
    · exact .mapError _ nofun
    · exact .ok ()
  rw [checked.bind_eq_replica_iff]
  simp only [mapError_eq_replica_iff]
  exact ⟨fun ⟨(), valid, failed⟩ => ⟨validate_eq_ok_iff.mp valid, failed⟩,
    fun ⟨valid, failed⟩ => ⟨(), validate_eq_ok_iff.mpr valid, failed⟩⟩

end Connecting

end TableReplica
