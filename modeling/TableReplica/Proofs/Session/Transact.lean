import TableReplica.Proofs.Replica.Creation
import TableReplica.Proofs.Schema.Operations
import TableReplica.Proofs.Session.Requests

/-!
# What is sent as a transaction

A connected session checks the operations of a transaction against the schema. If one of them names
something that the schema does not have, all are refused and nothing goes over the link; otherwise
they are sent in one call (`Session.transact_cases`). The check goes through the rows and what is
selected, but not through mutations and clauses, so that it keeps its word only as far as these name
nothing else that is missing (`Session.transact_guarded_iff`).
-/

namespace TableReplica

/-! ## Transactions -/

namespace Session

variable {σ : Type} [Link σ]

/-- What the answer to a transaction comes to. -/
def readAnswer : Except LinkFault Json → Except SessionFault (List Outcome)
  | .error fault => .error (.link fault)
  | .ok answer => (Outcome.readAll answer).mapError (.payload "transact")

/-- Operations are refused for something that is missing, and the session stays as it is: nothing
has gone over the link. -/
def Refuses (s : Session σ) (operations : List Operation) (cause : LookupFault) : Prop :=
  s.transact operations = (s, .error (.invalidOperation cause))

/-- Operations are sent in one call, with the name of the database before them. The link is what
this call has left, and the result is read from the answer. -/
def Sends (s : Session σ) (operations : List Operation) : Prop :=
  let called := Link.call s.link "transact"
    (.string s.settings.database :: operations.map Operation.toJson)
  s.transact operations = ({ s with link := called.2 }, readAnswer called.1)

/-- What is refused is not sent, since no answer tells that something is missing. -/
theorem Sends.not_refuses {s : Session σ} {operations : List Operation}
    (sends : s.Sends operations) (cause : LookupFault) : ¬ s.Refuses operations cause := by
  intro refuses
  have told := congrArg Prod.snd (sends.symm.trans refuses)
  revert told
  generalize (Link.call s.link "transact" _).1 = answer
  cases answer with
  | error fault => simp [readAnswer]
  | ok answer => cases read : Outcome.readAll answer <;> simp [readAnswer, read, Except.mapError]

theorem readAs_readAll (answer : Except LinkFault Json) :
    Exchange.readAs (fun value => (Outcome.readAll value).mapError (.payload "transact")) answer =
      readAnswer answer := by
  cases answer with
  | error fault => rfl
  | ok value => rfl

/-- Operations that pass the check are sent. -/
theorem sends_of_check {s : Session σ} (connected : s.connected = true)
    {operations : List Operation} (pass : s.schema.checkOperations operations = .ok ()) :
    s.Sends operations := by
  rw [Sends, transact, pass, ← readAs_readAll]
  exact perform_call connected "transact" _ _

/-- A connected session sends operations of which each names in its rows and selects what may be
named, and refuses the others for what is missing first. -/
theorem transact_cases {s : Session σ} (connected : s.connected = true)
    (operations : List Operation) :
    (s.Sends operations ∧ ∀ o ∈ operations, s.schema.Offers o.table o.namedColumns)
      ∨ ∃ before o after cause, operations = before ++ o :: after
        ∧ (∀ b ∈ before, s.schema.Offers b.table b.namedColumns)
        ∧ s.schema.Lacks o.table o.namedColumns cause
        ∧ s.Refuses operations cause := by
  rcases s.schema.checkOperations_cases operations with
    ⟨pass, offer⟩ | ⟨before, o, after, cause, split, offer, lacks, refused⟩
  · exact .inl ⟨sends_of_check connected pass, offer⟩
  · refine .inr ⟨before, o, after, cause, split, offer, lacks, ?_⟩
    rw [Refuses, transact, perform, if_pos connected, refused]
    rfl

/-- A connected session sends operations in one call if each of them names in its rows and selects
what may be named, and otherwise refuses them all for what is missing first. So operations that name
anything that is missing are refused, and no others, exactly if what is named in mutations and
clauses may be named whenever the rest may. -/
theorem transact_guarded_iff {s : Session σ} (connected : s.connected = true)
    (operations : List Operation) :
    ((∀ o ∈ operations, s.schema.Offers o.table o.namedColumns) → s.Sends operations)
      ∧ (¬ (∀ o ∈ operations, s.schema.Offers o.table o.namedColumns) →
        ∃ before o after cause, operations = before ++ o :: after
          ∧ (∀ b ∈ before, s.schema.Offers b.table b.namedColumns)
          ∧ s.schema.Lacks o.table o.namedColumns cause
          ∧ s.Refuses operations cause)
      ∧ (((∃ o ∈ operations, ¬ s.schema.Offers o.table o.mentionedColumns) →
            ∃ cause, s.Refuses operations cause)
          ∧ ((∀ o ∈ operations, s.schema.Offers o.table o.mentionedColumns) → s.Sends operations)
        ↔ ((∀ o ∈ operations, s.schema.Offers o.table o.namedColumns) →
          ∀ o ∈ operations, s.schema.Offers o.table o.mentionedColumns)) := by
  have named : ∀ o : Operation, s.schema.Offers o.table o.mentionedColumns →
      s.schema.Offers o.table o.namedColumns := by
    intro o offers
    refine offers.mono ?_
    rw [Operation.mentionedColumns, List.append_assoc]
    exact List.subset_append_left _ _
  rcases transact_cases connected operations with
    ⟨sends, offer⟩ | ⟨before, o, after, cause, split, offer, lacks, refuses⟩
  · refine ⟨fun _ => sends, fun other => absurd offer other, ?_, ?_⟩
    · rintro ⟨refused, -⟩ - o member
      by_contra missing
      obtain ⟨cause, refuses⟩ := refused ⟨o, member, missing⟩
      exact sends.not_refuses cause refuses
    · intro whenever
      refine ⟨?_, fun _ => sends⟩
      rintro ⟨o, member, missing⟩
      exact absurd (whenever offer o member) missing
  · have member : o ∈ operations := by simp [split]
    have missing : ¬ ∀ o ∈ operations, s.schema.Offers o.table o.namedColumns :=
      fun all => lacks.not_offers (all o member)
    refine ⟨fun all => absurd all missing,
      fun _ => ⟨before, o, after, cause, split, offer, lacks, refuses⟩,
      fun _ all => absurd all missing, fun _ => ⟨fun _ => ⟨cause, refuses⟩, fun all => ?_⟩⟩
    exact absurd (fun o member => named o (all o member)) missing

end Session

/-! ## An example -/

namespace Sample

/-- A session with a replica, over a link that has the answer to one transaction. -/
def session (replica : Replica) : Session ScriptedLink where
  link := { answers := .ofList [("transact", [.ok (.array [])])] }
  settings := { database := "Sample" }
  replica

/-- A bridge is inserted, and the datapath of all others is changed. -/
def refit : List Operation := [
  { kind := .insert, table := "Bridge", row := row "br0" },
  { kind := .mutate, table := "Bridge"
    mutations := [⟨"datapath_type", .insert, .atom (.string "netdev")⟩]
    clauses := [
      ⟨"name", .notEqual, .atom (.string "br0")⟩, ⟨"_uuid", .notEqual, .atom (.uuid "1")⟩] }]

/-- The bridges in which a column that bridges do not have is 1 are deleted. -/
def sweep : List Operation := [
  { kind := .delete, table := "Bridge", clauses := [⟨"nope", .equal, .atom (.integer 1)⟩] }]

end Sample

/-- A column that the table does not have is named in a clause alone, and the operation is sent. -/
theorem Session.transact_unknown_clause :
    ∃ start, Replica.new Sample.schema Sample.registry 4 = .ok start
      ∧ let s := Sample.session start
        s.connected = true
          ∧ (∃ o ∈ Sample.sweep, ¬ s.schema.Offers o.table o.mentionedColumns)
          ∧ (∀ cause, ¬ s.Refuses Sample.sweep cause)
          ∧ (s.transact Sample.sweep).1.link.log =
            [.call "transact" (.string "Sample" :: Sample.sweep.map Operation.toJson)] := by
  refine ⟨_, rfl, rfl, ⟨_, List.mem_singleton_self _, ?_⟩, ?_, rfl⟩
  · rintro ⟨t, present, offered⟩
    cases present
    obtain same | same | ⟨c, found⟩ := offered "nope" (by decide)
    · exact absurd same (by decide)
    · exact absurd same (by decide)
    · cases found
  · intro cause refuses
    cases refuses

/-- The insertion and the change of datapaths are sent in one call, and they are refused together
with an operation on a table that is missing. -/
theorem Session.transact_guarded_refit :
    ∃ start, Replica.new Sample.schema Sample.registry 4 = .ok start
      ∧ let s := Sample.session start
        s.connected = true
          ∧ s.Sends Sample.refit
          ∧ ∃ cause, s.Refuses (Sample.refit ++ [{ kind := .delete, table := "Port" }]) cause := by
  obtain ⟨start, created⟩ := Sample.exists_replica
  have sent := (transact_guarded_iff (s := Sample.session start) rfl Sample.refit).1
  have refused := (transact_guarded_iff (s := Sample.session start) rfl
    (Sample.refit ++ [{ kind := .delete, table := "Port" }])).2.1
  cases created
  refine ⟨_, rfl, rfl, sent fun o member => ⟨Sample.bridges, ?_⟩, ?_⟩
  · rcases List.mem_pair.mp member with rfl | rfl
    · refine ⟨rfl, fun c named => ?_⟩
      cases List.mem_singleton.mp (named : c ∈ ["name"])
      exact .inr (.inr ⟨_, rfl⟩)
    · exact ⟨rfl, fun c named => nomatch (named : c ∈ [])⟩
  · obtain ⟨-, -, -, cause, -, -, -, refuses⟩ := refused fun all => by
      obtain ⟨t, present, -⟩ := all { kind := .delete, table := "Port" } (by simp)
      cases present
    exact ⟨cause, refuses⟩

end TableReplica
