import TableReplica.Proofs.Session.Transact
import TableReplica.Proofs.Wire.Codec
import TableReplica.Proofs.Wire.Grammar

/-!
# What a server replies to a transaction

The reply has an entry for each operation: what the operation has come to, why it failed, or `null`
if it was not attempted, because another one failed before it. The entries are read one by one, and
the outcomes tell which operations failed; but there is no outcome for an operation that was not
attempted, so that a reply with such an entry is refused as a whole
(`Session.transact_reported_iff`).
-/

namespace TableReplica

/-! ## Entries of a reply -/

/-- What a server says of one operation. -/
inductive Verdict where
  | done
  | failed (cause : TransactionFault)
  | unattempted
deriving DecidableEq

/-- A member of the object that tells what an operation has come to. -/
inductive IsResultPart : String → Json → Prop
  | count (n : UInt64) : IsResultPart "count" (.number (.ofUnsigned n))
  | uuid (id : String) : IsResultPart "uuid" (.array [.string "uuid", .string id])
  | rows {rows : List Json} (each : ∀ row ∈ rows, row.IsRow) : IsResultPart "rows" (.array rows)

namespace Verdict

/-- The failure that a verdict is, if it is one. -/
def check : Verdict → Except TransactionFault Unit
  | .failed cause => .error cause
  | .done | .unattempted => .ok ()

/-- The JSON values that write a verdict. -/
inductive Writes : Verdict → Json → Prop
  | done {members : List (String × Json)} (distinct : (members.map Prod.fst).Nodup)
    (parts : ∀ m ∈ members, IsResultPart m.1 m.2) : Writes .done (.object members)
  | failed (cause : TransactionFault) : Writes (.failed cause) (.ofMembers
    (("error", .string cause.fault) :: (cause.details.map fun d => ("details", .string d)).toList))
  | unattempted : Writes .unattempted .null

end Verdict

namespace Outcome

/-- What an operation has come to says nothing of a failure. -/
theorem exists_readField {name : String} {value : Json} (part : IsResultPart name value)
    (o : Outcome) : ∃ o', readField o name value = .ok o' ∧ o'.fault = o.fault := by
  cases part with
  | count n => exact ⟨_, readField_count o n, rfl⟩
  | uuid id => exact ⟨_, rfl, rfl⟩
  | @rows values each =>
    obtain ⟨rows, read⟩ := Except.exists_mapM fun row member => (each row member).exists_read
    exact ⟨{ o with rows }, Except.bind_eq_ok_iff.mpr ⟨rows, read, rfl⟩, rfl⟩

theorem exists_readParts {members : List (String × Json)}
    (parts : ∀ m ∈ members, IsResultPart m.1 m.2) (o : Outcome) :
    ∃ o', Json.readParts readField members o = .ok o' ∧ o'.fault = o.fault := by
  induction members generalizing o with
  | nil => exact ⟨o, rfl, rfl⟩
  | cons m rest ih =>
    rw [List.forall_mem_cons] at parts
    obtain ⟨next, first, same⟩ := exists_readField parts.1 o
    obtain ⟨o', later, same'⟩ := ih parts.2 next
    exact ⟨o', Except.bind_eq_ok_iff.mpr ⟨next, first, later⟩, same'.trans same⟩

theorem exists_read_of_done {members : List (String × Json)}
    (distinct : (members.map Prod.fst).Nodup) (parts : ∀ m ∈ members, IsResultPart m.1 m.2) :
    ∃ o, read (.object members) = .ok o ∧ o.check = .ok () := by
  have known : ∀ m ∈ members, m.1 ∈ fields := by
    rintro ⟨name, value⟩ member
    have part : IsResultPart name value := parts (name, value) member
    cases part <;> simp [fields]
  obtain ⟨o, read, unfailed⟩ := exists_readParts parts {}
  refine ⟨o, (Json.readRecord_object known distinct).trans read, ?_⟩
  rw [check, unfailed]

theorem read_of_failed (cause : TransactionFault) :
    read (.ofMembers (("error", .string cause.fault)
        :: (cause.details.map fun d => ("details", .string d)).toList)) =
      .ok { fault := some cause.fault, details := cause.details } := by
  have written : Json.ofMembers (("error", .string cause.fault)
      :: (cause.details.map fun d => ("details", .string d)).toList) =
      toJson { fault := some cause.fault, details := cause.details } := by
    simp [toJson]
  rw [written]
  exact read_toJson rfl

/-- Whatever writes a verdict is read as an outcome that reports the same failure, if any; only of
an operation that was not attempted there is none. -/
theorem read_of_writes {v : Verdict} {value : Json} (written : v.Writes value) :
    (v = .unattempted ∧ read value = .error .shape)
      ∨ (v ≠ .unattempted ∧ ∃ o, read value = .ok o ∧ o.check = v.check) := by
  cases written with
  | done distinct parts => exact .inr ⟨nofun, exists_read_of_done distinct parts⟩
  | failed cause => exact .inr ⟨nofun, _, read_of_failed cause, rfl⟩
  | unattempted => exact .inl ⟨rfl, rfl⟩

/-- The entries of a reply are read one by one. -/
theorem readAll_of_writes {verdicts : List Verdict} {values : List Json}
    (written : List.Forall₂ Verdict.Writes verdicts values) :
    (.unattempted ∈ verdicts → readAll (.array values) = .error .shape)
      ∧ (.unattempted ∉ verdicts → ∃ outcomes, readAll (.array values) = .ok outcomes
        ∧ List.Forall₂ (fun v o => o.check = v.check) verdicts outcomes) := by
  change (_ → values.mapM read = _) ∧ (_ → ∃ outcomes, values.mapM read = _ ∧ _)
  induction written with
  | nil => exact ⟨nofun, fun _ => ⟨[], rfl, .nil⟩⟩
  | @cons v value verdicts values first _ ih =>
    rw [List.mapM_cons, List.mem_cons]
    rcases read_of_writes first with ⟨rfl, refused⟩ | ⟨attempted, o, found, told⟩
    · rw [refused]
      exact ⟨fun _ => rfl, fun attempted => absurd (.inl rfl) attempted⟩
    · rw [found, Except.ok_bind]
      constructor
      · rintro (rfl | missing)
        · exact absurd rfl attempted
        · rw [ih.1 missing]
          rfl
      · intro all
        obtain ⟨outcomes, read, others⟩ := ih.2 fun missing => all (.inr missing)
        rw [read]
        exact ⟨o :: outcomes, rfl, .cons told others⟩

end Outcome

/-! ## Transactions -/

/-- A connected session whose operations pass the check reads the reply of the server. If each
operation was attempted, there is one outcome for each entry of the reply, read from what stands at
its position, and it reports a failure exactly if the entry does, with the same words. If some
operation was not attempted, the reply is refused as a whole. -/
theorem Session.transact_reported_iff {σ : Type} [Link σ] {s : Session σ}
    (connected : s.connected = true) {operations : List Operation}
    (pass : s.schema.checkOperations operations = .ok ())
    {verdicts : List Verdict} {values : List Json}
    (written : List.Forall₂ Verdict.Writes verdicts values)
    (answered : (Link.call s.link "transact"
      (.string s.settings.database :: operations.map Operation.toJson)).1 = .ok (.array values)) :
    let result := (s.transact operations).2
    ((∃ outcomes, result = .ok outcomes
        ∧ List.Forall₂ (fun value o => Outcome.read value = .ok o) values outcomes
        ∧ List.Forall₂ (fun v o => Outcome.check o = Verdict.check v) verdicts outcomes)
      ↔ .unattempted ∉ verdicts)
      ∧ (.unattempted ∈ verdicts → result = .error (.payload "transact" .shape)) := by
  intro result
  have sent : result = readAnswer (.ok (.array values)) := by
    have sends : s.Sends operations := sends_of_check connected pass
    rw [Sends, answered] at sends
    exact congrArg Prod.snd sends
  obtain ⟨refused, reported⟩ := Outcome.readAll_of_writes written
  have missing : .unattempted ∈ verdicts → result = .error (.payload "transact" .shape) := by
    intro unattempted
    rw [sent, readAnswer, refused unattempted]
    rfl
  refine ⟨⟨?_, ?_⟩, missing⟩
  · rintro ⟨outcomes, read, -⟩ unattempted
    rw [missing unattempted] at read
    cases read
  · intro attempted
    obtain ⟨outcomes, read, each⟩ := reported attempted
    refine ⟨outcomes, ?_, Except.mapM_eq_ok_iff.mp read, each⟩
    rw [sent, readAnswer, read]
    rfl

/-! ## An example -/

namespace Sample

/-- A session with a replica, over a link that has one reply to a transaction. -/
def replied (replica : Replica) (reply : List Json) : Session ScriptedLink where
  link := { answers := .ofList [("transact", [.ok (.array reply)])] }
  settings := { database := "Sample" }
  replica

/-- Two bridges are deleted, and all are looked at. -/
def raze : List Operation := [
  { kind := .delete, table := "Bridge", clauses := [⟨"name", .equal, .atom (.string "br0")⟩] },
  { kind := .select, table := "Bridge" },
  { kind := .delete, table := "Bridge", clauses := [⟨"name", .equal, .atom (.string "br1")⟩] }]

/-- One bridge is deleted and one is left; the last one is still referred to. -/
def razed : List Json := [
  .object [("count", .ofInt 1)],
  .object [("rows", .array [.object [("name", .string "br1")]])],
  .object [("details", .string "br1"), ("error", .string "referential integrity violation")]]

/-- What that says of each operation. -/
def razedVerdicts : List Verdict :=
  [.done, .done, .failed ⟨"referential integrity violation", some "br1"⟩]

theorem razed_written : List.Forall₂ Verdict.Writes razedVerdicts razed := by
  refine .cons (.done (by decide) ?_) (.cons (.done (by decide) ?_) (.cons ?_ .nil))
  · rw [List.forall_mem_singleton]
    exact .count 1
  · rw [List.forall_mem_singleton]
    refine .rows fun row member => ?_
    rw [List.mem_singleton] at member
    subst member
    refine .object ?_
    rw [List.forall_mem_singleton]
    exact .atom (.string "br1")
  · exact .failed ⟨"referential integrity violation", some "br1"⟩

end Sample

/-- The failure of the last operation is reported beside what the others have come to. -/
theorem Session.transact_reported_razed :
    ∃ start, Replica.new Sample.schema Sample.registry 4 = .ok start
      ∧ let s := Sample.replied start Sample.razed
        s.connected = true ∧ s.schema.checkOperations Sample.raze = .ok ()
          ∧ List.Forall₂ Verdict.Writes Sample.razedVerdicts Sample.razed
          ∧ ∃ outcomes, (s.transact Sample.raze).2 = .ok outcomes
            ∧ List.Forall₂ (fun v o => Outcome.check o = Verdict.check v) Sample.razedVerdicts
              outcomes := by
  obtain ⟨start, created⟩ := Sample.exists_replica
  have reported := @transact_reported_iff _ _ (Sample.replied start Sample.razed) rfl Sample.raze
  cases created
  obtain ⟨outcomes, read, -, each⟩ :=
    (reported rfl Sample.razed_written rfl).1.mpr (by decide)
  exact ⟨_, rfl, rfl, rfl, Sample.razed_written, outcomes, read, each⟩

/-- The first operation fails and the second is not attempted: the reply is refused, and nothing is
learnt of the failure. -/
theorem Session.transact_unattempted_refused :
    ∃ start, Replica.new Sample.schema Sample.registry 4 = .ok start
      ∧ let s := Sample.replied start
          [.object [("details", .string "br0"), ("error", .string "timed out")], .null]
        let operations := Sample.raze.take 2
        s.connected = true ∧ s.schema.checkOperations operations = .ok ()
          ∧ List.Forall₂ Verdict.Writes [.failed ⟨"timed out", some "br0"⟩, .unattempted]
            [.object [("details", .string "br0"), ("error", .string "timed out")], .null]
          ∧ (s.transact operations).2 = .error (.payload "transact" .shape) :=
  ⟨_, rfl, rfl, rfl, .cons (.failed ⟨"timed out", some "br0"⟩) (.cons .unattempted .nil), rfl⟩

end TableReplica
