import TableReplica.Proofs.Query.TypedReads
import TableReplica.Proofs.Session.Attempt

/-!
# Connecting

Whoever makes an attempt to connect learns how it has ended: it has failed, or there is a session
(`Attempt.ends_cleanly_iff`). The exception is a buffer with room for more events than any queue can
have. It is noticed when everything else is in order, and stops the attempt without a fault and with
an open link.

To connect over a link is to make an attempt that is given the answers of the link
(`Session.connect_eq`).
-/

namespace TableReplica

namespace Attempt

open Connecting

variable {registry : Registry} {settings : Settings} {a : Attempt}

/-! ## How an attempt ends -/

/-- There is a session with an open link, both of its loops run, and its replica holds the tables of
the registry and no others. The server has the database, and its schema is the one that the replica
is made for. -/
structure Succeeded (a : Attempt) (p : Replica) : Prop where
  stage : a.stage = .connected p
  opened : Traffic.close ∉ a.traffic
  loops : a.loops = [.delivery, .ingestion]
  tables : p.store.tables.keys = a.registry.tables
  suits : p.store.schema.Suits a.registry a.settings
  answered : ∃ first second, a.answers = [first, second] ∧ ListsDatabase a.settings.database first
    ∧ GivesSchema p.store.schema second

/-- There is a fault, the link has been closed once, at last, and nothing runs. -/
structure Failed (a : Attempt) (cause : SessionFault) : Prop where
  stage : a.stage = .failed cause
  closed : a.traffic.count .close = 1
  closedLast : a.traffic.getLast? = some .close
  loops : a.loops = []

/-- All that is checked is as it should be. -/
structure InOrder (a : Attempt) : Prop where
  positive : a.settings.eventBuffer ≠ 0
  meant : a.registry.name = a.settings.database
  answered : ∃ first second schema, a.answers = [first, second]
    ∧ ListsDatabase a.settings.database first ∧ GivesSchema schema second
    ∧ schema.Suits a.registry a.settings

/-- There is room for more events than a queue can have. -/
def Oversized (a : Attempt) : Prop := Queue.maxCapacity < a.settings.eventBuffer.toNat

theorem Possible.succeeds (possible : Possible registry settings a) {p : Replica}
    (stage : a.stage = .connected p) : a.Succeeded p ∧ a.InOrder ∧ ¬ a.Oversized := by
  cases possible with
  | @connected stream first second p' admitted found built =>
    cases stage
    obtain ⟨positive, meant⟩ := precheck_eq_ok_iff.mp admitted
    obtain ⟨schema, described, valid, made⟩ := build_eq_ok_iff.mp built
    obtain ⟨created, room⟩ := Replica.new_eq_ok_iff.mp made
    have serves := Store.serves_new created
    have sameSchema : p'.store.schema = schema := serves.sameSchema
    have suits : schema.Suits registry settings := ⟨Store.exists_new_iff.mp ⟨_, created⟩, valid⟩
    refine ⟨⟨rfl, by simp [listCall, schemaCall], rfl, serves.tables created, ?_, ?_⟩, ?_, ?_⟩
    · exact sameSchema.symm ▸ suits
    · exact ⟨first, second, rfl, find_eq_ok_iff.mp found, sameSchema.symm ▸ described⟩
    · exact ⟨positive, meant, first, second, schema, rfl, find_eq_ok_iff.mp found, described, suits⟩
    · intro huge
      rw [Delivery.new?, dif_neg fun possible => absurd huge (Nat.not_lt.mpr possible.2)] at room
      cases room
  | _ => cases stage

theorem Possible.fails (possible : Possible registry settings a) {cause : SessionFault}
    (stage : a.stage = .failed cause) : a.Failed cause ∧ ¬ a.InOrder := by
  cases possible with
  | refused stream wrong =>
    cases stage
    refine ⟨⟨rfl, rfl, rfl, rfl⟩, fun inOrder => ?_⟩
    have admitted := precheck_eq_ok_iff.mpr ⟨inOrder.positive, inOrder.meant⟩
    cases wrong.symm.trans admitted
  | missed stream admitted wrong =>
    cases stage
    refine ⟨⟨rfl, rfl, rfl, rfl⟩, fun inOrder => ?_⟩
    obtain ⟨first, second, schema, answered, -⟩ := inOrder.answered
    cases answered
  | unfit stream admitted found wrong other =>
    cases stage
    refine ⟨⟨rfl, rfl, rfl, rfl⟩, fun inOrder => ?_⟩
    obtain ⟨first, second, schema, answered, -, described, suits⟩ := inOrder.answered
    cases answered
    obtain ⟨s, created⟩ := Store.exists_new_iff.mpr suits.tables
    by_cases room : settings.eventBuffer.toNat ≤ Queue.maxCapacity
    · have positive : 0 < settings.eventBuffer.toNat :=
        Nat.pos_of_ne_zero fun zero => inOrder.positive (UInt64.toNat_inj.mp zero)
      have made : Replica.new schema registry settings.eventBuffer.toNat =
          .ok ⟨s, .new _ positive⟩ :=
        Replica.new_eq_ok_iff.mpr ⟨created, dif_pos ⟨positive, room⟩⟩
      have built := build_eq_ok_iff.mpr ⟨schema, described, suits.valid, made⟩
      cases wrong.symm.trans built
    · have huge := Replica.new_eq_huge_iff.mpr ⟨⟨s, created⟩, Nat.lt_of_not_le room⟩
      have blamed := build_eq_replica_iff.mpr ⟨schema, described, suits.valid, huge⟩
      exact other (Except.error.inj (wrong.symm.trans blamed))
  | _ => cases stage

theorem Possible.stops (possible : Possible registry settings a) (stage : a.stage = .halted) :
    a.InOrder ∧ a.Oversized := by
  cases possible with
  | @halted stream first second admitted found wrong =>
    obtain ⟨positive, meant⟩ := precheck_eq_ok_iff.mp admitted
    obtain ⟨schema, described, valid, failed⟩ := build_eq_replica_iff.mp wrong
    obtain ⟨stored, huge⟩ := Replica.new_eq_huge_iff.mp failed
    have suits : schema.Suits registry settings := ⟨Store.exists_new_iff.mp stored, valid⟩
    exact ⟨⟨positive, meant, first, second, schema, rfl, find_eq_ok_iff.mp found, described, suits⟩,
      huge⟩
  | _ => cases stage

/-- No other calls are made than those for the databases and the schema, in this order. -/
theorem Possible.calls_prefix (possible : Possible registry settings a) :
    a.calls <+: [("list_dbs", []), ("get_schema", [.string settings.database])] := by
  cases possible <;> exact ⟨_, rfl⟩

/-- What is wrong before anything is sent is reported before anything is sent. -/
theorem Possible.refuses (possible : Possible registry settings a) {cause : SessionFault}
    (wrong : precheck registry settings = .error cause) :
    a.calls = [] ∧ (a.stage = .begun ∨ a.stage = .failed cause) := by
  cases possible with
  | begun stream => exact ⟨rfl, .inl rfl⟩
  | refused stream wrong' =>
    cases wrong.symm.trans wrong'
    exact ⟨rfl, .inr rfl⟩
  | listing _ admitted | missed _ admitted _ | fetching _ admitted _ | unfit _ admitted _ _ _
  | halted _ admitted _ _ | connected _ admitted _ _ => cases wrong.symm.trans admitted

/-- An attempt that is over has led to a session if everything has been in order, the size of the
buffer included, and has failed if something else than that has been wrong. -/
theorem Possible.ends_iff (possible : Possible registry settings a)
    (ended : a.stage.isOver = true) : ((∃ p, a.Succeeded p) ↔ a.InOrder ∧ ¬ a.Oversized)
      ∧ ((∃ cause, a.Failed cause) ↔ ¬ a.InOrder) := by
  have unsuccessful : (∀ p, a.stage ≠ .connected p) → ¬ ∃ p, a.Succeeded p :=
    fun other ⟨p, succeeded⟩ => other p succeeded.stage
  have unfailed : (∀ cause, a.stage ≠ .failed cause) → ¬ ∃ cause, a.Failed cause :=
    fun other ⟨cause, failed⟩ => other cause failed.stage
  cases stage : a.stage with
  | connected p =>
    obtain ⟨succeeded, inOrder⟩ := possible.succeeds stage
    exact ⟨iff_of_true ⟨p, succeeded⟩ inOrder,
      iff_of_false (unfailed (stage ▸ nofun)) (not_not_intro inOrder.1)⟩
  | failed cause =>
    obtain ⟨failed, disorder⟩ := possible.fails stage
    exact ⟨iff_of_false (unsuccessful (stage ▸ nofun)) fun inOrder => disorder inOrder.1,
      iff_of_true ⟨cause, failed⟩ disorder⟩
  | halted =>
    obtain ⟨inOrder, huge⟩ := possible.stops stage
    exact ⟨iff_of_false (unsuccessful (stage ▸ nofun)) fun fine => fine.2 huge,
      iff_of_false (unfailed (stage ▸ nofun)) (not_not_intro inOrder)⟩
  | begun | listing | fetching =>
    rw [stage] at ended
    cases ended

end Attempt

/-! ## Attempts over a link -/

/-- What becomes of a link when something goes over it. -/
def Traffic.through {σ : Type} [Link σ] (link : σ) : Traffic → σ
  | .call method params => (Link.call link method params).2
  | .close => Link.close link

section

variable {σ : Type} [Link σ]

namespace Session

theorem connect_of_error {registry : Registry} {settings : Settings} {link next : σ}
    {cause : SessionFault}
    (failed : (Exchange.connect registry settings : Exchange σ Replica) link = (.error cause, next))
    (other : cause ≠ .replica .hugeEventBuffer) :
    connect link registry settings = (.error cause, Link.close next) := by
  rw [connect, failed]
  split
  next same => cases same
  next same =>
    cases same
    exact absurd rfl other
  next same =>
    cases same
    rfl

/-- To connect over a link is to make an attempt with the answers that the link has for the two
calls. -/
theorem connect_eq (registry : Registry) (settings : Settings) (link : σ) :
    let first := Link.call link "list_dbs" []
    let second := Link.call first.2 "get_schema" [.string settings.database]
    let a := ({ registry, settings } : Attempt).after (Attempt.script first.1 second.1)
    let left := a.traffic.foldl Traffic.through link
    a.outcome? left = some (connect link registry settings).1
      ∧ left = (connect link registry settings).2 := by
  intro first second
  have connected := Exchange.connect_apply registry settings link
  simp only [Attempt.after, Attempt.script, List.foldl_cons, List.foldl_nil, Attempt.step,
    Attempt.turn]
  cases checked : Connecting.precheck registry settings with
  | error cause =>
    have other := Connecting.precheck_innocent.ne_huge checked
    rw [checked] at connected
    rw [connect_of_error connected other]
    simp only [Attempt.proceed, Attempt.fail_of_ne _ other]
    exact ⟨rfl, rfl⟩
  | ok =>
    simp only [Attempt.proceed]
    cases searched : Connecting.find settings first.1 with
    | error cause =>
      have other := Connecting.find_innocent.ne_huge searched
      simp only [checked, searched, first] at connected
      rw [connect_of_error connected other]
      simp only [Attempt.send, Attempt.hear, searched, Attempt.proceed, Attempt.fail_of_ne _ other]
      exact ⟨rfl, rfl⟩
    | ok =>
      simp only [checked, searched, first] at connected
      simp only [Attempt.send, Attempt.hear, searched, Attempt.proceed]
      cases built : Connecting.build registry settings second.1 with
      | ok p =>
        simp only [built, second, first] at connected
        simp only [connect, connected]
        exact ⟨rfl, rfl⟩
      | error cause =>
        simp only [built, second, first] at connected
        by_cases huge : cause = .replica .hugeEventBuffer
        · subst huge
          simp only [connect, connected]
          exact ⟨rfl, rfl⟩
        · rw [connect_of_error connected huge]
          simp only [Attempt.fail_of_ne _ huge]
          exact ⟨rfl, rfl⟩

end Session

end

/-- Whatever happens to an attempt, it makes no calls but those for the databases and the schema, in
this order, leaves alone all messages that have arrived, and makes no call if the buffer has no room
or the registry is meant for another database. A turn and two answers bring it to an end. Then there
is a session if everything is in order, and a fault if something is not, except that there is
neither if nothing is wrong but that the buffer is too large. With a session, the link is open, the
loops run, and the replica holds the tables of the registry, all of which the schema has; with a
fault, the link has been closed once and no loop runs. To connect over a link is to make such an
attempt. -/
theorem Attempt.ends_cleanly_iff (registry : Registry) (settings : Settings)
    (actions : List AttemptAction) :
    let a := ({ registry, settings } : Attempt).after actions
    a.calls <+: [("list_dbs", []), ("get_schema", [.string settings.database])]
      ∧ a.stream = actions.filterMap AttemptAction.arrival?
      ∧ (settings.eventBuffer = 0 → a.calls = []
        ∧ (a.stage = .begun ∨ a.stage = .failed (.settings .zeroEventBuffer)))
      ∧ (settings.eventBuffer ≠ 0 → registry.name ≠ settings.database → a.calls = []
        ∧ (a.stage = .begun
          ∨ a.stage = .failed (.modelMismatch registry.name settings.database)))
      ∧ (∀ first second, (script first second).Sublist actions → a.stage.isOver = true)
      ∧ (∀ p, a.stage = .connected p → a.Succeeded p)
      ∧ (∀ cause, a.stage = .failed cause → a.Failed cause)
      ∧ (a.stage.isOver = true →
        ((∃ p, a.Succeeded p) ↔ a.InOrder ∧ ¬ a.Oversized)
          ∧ ((∃ cause, a.Failed cause) ↔ ¬ a.InOrder)
          ∧ ((∃ p, a.Succeeded p) ∨ (∃ cause, a.Failed cause) ↔ ¬ (a.InOrder ∧ a.Oversized)))
      ∧ ∀ (σ : Type) [Link σ] (link : σ),
        let first := Link.call link "list_dbs" []
        let second := Link.call first.2 "get_schema" [.string settings.database]
        let ended := ({ registry, settings } : Attempt).after (script first.1 second.1)
        let left := ended.traffic.foldl Traffic.through link
        ended.outcome? left = some (Session.connect link registry settings).1
          ∧ left = (Session.connect link registry settings).2 := by
  intro a
  have possible : Possible registry settings a := (Possible.begun []).after actions
  refine ⟨possible.calls_prefix, stream_after _ actions, fun zero => possible.refuses ?_,
    fun positive other => possible.refuses ?_, fun first second given => isOver_after given,
    fun p stage => (possible.succeeds stage).1, fun cause stage => (possible.fails stage).1,
    fun ended => ?_, fun σ _ => Session.connect_eq registry settings⟩
  · rw [Connecting.precheck, Settings.check, if_pos zero]
    rfl
  · rw [Connecting.precheck, Settings.check, if_neg positive]
    simp only [if_pos other]
    rfl
  · obtain ⟨succeeds, fails⟩ := possible.ends_iff ended
    refine ⟨succeeds, fails, ?_⟩
    rw [succeeds, fails]
    by_cases inOrder : a.InOrder
    · simp only [inOrder, true_and, not_true_eq_false, or_false]
    · simp only [inOrder, false_and, not_false_eq_true, or_true]

/-! ## Examples -/

namespace Sample

/-- What a server answers that has the database of the registry. -/
def databases : Json := .array [.string "Sample"]

/-- A schema with a table of bridges. -/
def bridgesJson : Json :=
  .object [("name", .string "Sample"), ("tables", .object [("Bridge", .object [("columns",
    .object [("name", .object [("type", .string "string")])])])])]

/-- Settings for a buffer of some size that do not ask for a validation. -/
def buffered (eventBuffer : UInt64) : Settings :=
  { database := "Sample", eventBuffer, validateModel := false }

/-- What happens to an attempt at a server that has the database. A message arrives before it can be
known what is to become of it. -/
def welcome : List AttemptAction :=
  [.turn, .answer (.ok databases), .arrive .gone, .answer (.ok bridgesJson)]

/-- A link to such a server. -/
def welcoming : ScriptedLink where
  answers := .ofList [("get_schema", [.ok bridgesJson]), ("list_dbs", [.ok databases])]

end Sample

/-- With room for four events there is a session, and the message is still to be taken in. -/
theorem Attempt.ends_cleanly_at_four :
    let a := ({ registry := Sample.registry, settings := Sample.buffered 4 } : Attempt).after
      Sample.welcome
    (∃ p, a.Succeeded p) ∧ a.stream = [.gone] := by
  obtain ⟨-, stream, -, -, -, succeeded, -⟩ :=
    ends_cleanly_iff Sample.registry (Sample.buffered 4) Sample.welcome
  exact ⟨⟨_, succeeded _ rfl⟩, stream⟩

/-- With room for more events than a queue can have, there is neither a session nor a fault, and the
link stays open. -/
theorem Attempt.huge_buffer_ends_uncleanly :
    let settings := Sample.buffered 0x2000000000000000
    let a := ({ registry := Sample.registry, settings } : Attempt).after Sample.welcome
    a.stage.isOver = true ∧ Traffic.close ∉ a.traffic
      ∧ ¬ ((∃ p, a.Succeeded p) ∨ ∃ cause, a.Failed cause)
      ∧ (Session.connect Sample.welcoming Sample.registry settings).2.closed = false := by
  refine ⟨rfl, by decide, ?_, rfl⟩
  rintro (⟨p, succeeded⟩ | ⟨cause, failed⟩)
  · cases succeeded.stage
  · cases failed.stage

end TableReplica
