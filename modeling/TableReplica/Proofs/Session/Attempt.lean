import TableReplica.Proofs.Session.Checks
import TableReplica.Proofs.Session.Schedule

/-!
# Attempts to connect

An attempt to connect waits for the server twice, once for its databases and once for the schema.
Meanwhile messages may arrive. The attempt is checked before its first call and after each answer;
when something is wrong, the link is closed and nothing else is done. When all is well, the loops of
a session are started.

Whatever happens to an attempt, it has come to one of a few situations (`Attempt.Possible.after`).
The messages have piled up (`Attempt.stream_after`), and a turn and two answers have brought the
attempt to an end (`Attempt.isOver_after`).
-/

namespace TableReplica

/-! ## Attempts -/

/-- A loop that works for a session in the background. -/
inductive SessionLoop where
  /-- Takes messages in. -/
  | ingestion
  /-- Delivers the events of the replica. -/
  | delivery
deriving DecidableEq

/-- How far an attempt to connect has come. -/
inductive AttemptStage where
  | begun
  /-- The databases of the server have been asked for. -/
  | listing
  /-- The schema has been asked for. -/
  | fetching
  | connected (replica : Replica)
  | failed (cause : SessionFault)
  /-- The attempt has stopped on the spot. -/
  | halted

namespace AttemptStage

/-- The number of things that have happened to an attempt: a turn and two answers end it. -/
def rank : AttemptStage → Nat
  | .begun => 0
  | .listing => 1
  | .fetching => 2
  | .connected _ | .failed _ | .halted => 3

/-- Whether an attempt is over. -/
def isOver (stage : AttemptStage) : Bool := stage.rank = 3

end AttemptStage

/-- An attempt to connect. -/
structure Attempt where
  registry : Registry
  settings : Settings
  stage : AttemptStage := .begun
  /-- What has gone over the link, in order. -/
  traffic : List Traffic := []
  /-- The answers that the server has given, in order. -/
  answers : List (Except LinkFault Json) := []
  /-- The messages that wait, in the order of their arrival. -/
  stream : List Message := []
  /-- The loops that have been started. -/
  loops : List SessionLoop := []

/-- What happens to an attempt. -/
inductive AttemptAction where
  | arrive (m : Message)
  /-- The attempt takes its first turn. -/
  | turn
  /-- The server answers a call. -/
  | answer (answer : Except LinkFault Json)

/-- The message that arrives. -/
def AttemptAction.arrival? : AttemptAction → Option Message
  | .arrive m => some m
  | _ => none

namespace Attempt

open Connecting

/-! ### Steps -/

/-- The attempt ends without a session. -/
def fail (a : Attempt) : SessionFault → Attempt
  | .replica .hugeEventBuffer => { a with stage := .halted }
  | cause => { a with stage := .failed cause, traffic := a.traffic ++ [.close] }

/-- Goes on with what has been found out, unless something is wrong. -/
def proceed {α : Type} (a : Attempt) (result : Except SessionFault α) (next : α → Attempt) :
    Attempt :=
  match result with
  | .ok found => next found
  | .error cause => a.fail cause

/-- Makes the call for a request, and waits for the answer. -/
def send (a : Attempt) (q : Request) (stage : AttemptStage) : Attempt :=
  let (method, params) := q.call a.settings.database
  { a with stage, traffic := a.traffic ++ [.call method params] }

/-- The attempt ends with a session. Its loops are started. -/
def finish (a : Attempt) (replica : Replica) : Attempt :=
  { a with
    stage := .connected { replica with delivery := replica.delivery.runElsewhere }
    loops := [.delivery, .ingestion] }

/-- The attempt takes its first turn. -/
def turn (a : Attempt) : Attempt :=
  match a.stage with
  | .begun => a.proceed (precheck a.registry a.settings) fun _ => a.send .listDatabases .listing
  | _ => a

/-- The server answers, if there is a call that waits for it. -/
def hear (a : Attempt) (answer : Except LinkFault Json) : Attempt :=
  let heard := { a with answers := a.answers ++ [answer] }
  match a.stage with
  | .listing => heard.proceed (find a.settings answer) fun _ =>
    heard.send (.getSchema a.settings.database) .fetching
  | .fetching => heard.proceed (build a.registry a.settings answer) heard.finish
  | _ => a

/-- One thing happens to an attempt. -/
def step (a : Attempt) : AttemptAction → Attempt
  | .arrive m => { a with stream := a.stream ++ [m] }
  | .turn => a.turn
  | .answer answer => a.hear answer

/-- What has become of an attempt. -/
def after (a : Attempt) (actions : List AttemptAction) : Attempt := actions.foldl step a

/-- The calls that have been made, in order. -/
def calls (a : Attempt) : List (String × List Json) :=
  a.traffic.filterMap fun
    | .call method params => some (method, params)
    | .close => none

/-- How the attempt has ended, if it has, for a link that has come into some state. -/
def outcome? {σ : Type} (a : Attempt) (link : σ) : Option (Except SessionFault (Session σ)) :=
  match a.stage with
  | .connected replica => some (.ok { link, settings := a.settings, replica })
  | .failed cause => some (.error cause)
  | .halted => some (.error (.replica .hugeEventBuffer))
  | _ => none

variable {registry : Registry} {settings : Settings} {answer : Except LinkFault Json}

/-! ## What an attempt can come to -/

/-- The call for the databases. -/
def listCall : Traffic := .call "list_dbs" []

/-- The call for the schema. -/
def schemaCall (settings : Settings) : Traffic := .call "get_schema" [.string settings.database]

/-- The attempts that can be made with a registry and settings, whatever has happened to them. -/
inductive Possible (registry : Registry) (settings : Settings) : Attempt → Prop
  | begun (stream : List Message) :
    Possible registry settings { registry, settings, stream }
  | refused (stream : List Message) {cause : SessionFault}
    (wrong : precheck registry settings = .error cause) :
    Possible registry settings
      { registry, settings, stage := .failed cause, traffic := [.close], stream }
  | listing (stream : List Message) (admitted : precheck registry settings = .ok ()) :
    Possible registry settings
      { registry, settings, stage := .listing, traffic := [listCall], stream }
  | missed (stream : List Message) {first : Except LinkFault Json} {cause : SessionFault}
    (admitted : precheck registry settings = .ok ()) (wrong : find settings first = .error cause) :
    Possible registry settings
      { registry, settings, stage := .failed cause, traffic := [listCall, .close],
        answers := [first], stream }
  | fetching (stream : List Message) {first : Except LinkFault Json}
    (admitted : precheck registry settings = .ok ()) (found : find settings first = .ok ()) :
    Possible registry settings
      { registry, settings, stage := .fetching, traffic := [listCall, schemaCall settings],
        answers := [first], stream }
  | unfit (stream : List Message) {first second : Except LinkFault Json} {cause : SessionFault}
    (admitted : precheck registry settings = .ok ()) (found : find settings first = .ok ())
    (wrong : build registry settings second = .error cause)
    (other : cause ≠ .replica .hugeEventBuffer) :
    Possible registry settings
      { registry, settings, stage := .failed cause,
        traffic := [listCall, schemaCall settings, .close], answers := [first, second], stream }
  | halted (stream : List Message) {first second : Except LinkFault Json}
    (admitted : precheck registry settings = .ok ()) (found : find settings first = .ok ())
    (wrong : build registry settings second = .error (.replica .hugeEventBuffer)) :
    Possible registry settings
      { registry, settings, stage := .halted, traffic := [listCall, schemaCall settings],
        answers := [first, second], stream }
  | connected (stream : List Message) {first second : Except LinkFault Json} {p : Replica}
    (admitted : precheck registry settings = .ok ()) (found : find settings first = .ok ())
    (built : build registry settings second = .ok p) :
    Possible registry settings
      { registry, settings, stage := .connected { p with delivery := p.delivery.runElsewhere },
        traffic := [listCall, schemaCall settings], answers := [first, second], stream,
        loops := [.delivery, .ingestion] }

variable {a : Attempt}

/-- What holds of an attempt that has failed or goes on. -/
theorem proceed_of {α : Type} {result : Except SessionFault α} {next : α → Attempt}
    (P : Attempt → Prop) (failed : ∀ cause, P (a.fail cause)) (each : ∀ found, P (next found)) :
    P (a.proceed result next) := by
  cases result with
  | ok found => exact each found
  | error cause => exact failed cause

theorem fail_of_ne (a : Attempt) {cause : SessionFault}
    (other : cause ≠ .replica .hugeEventBuffer) :
    a.fail cause = { a with stage := .failed cause, traffic := a.traffic ++ [.close] } := by
  unfold fail
  split
  next => exact absurd rfl other
  next => rfl

theorem turn_of_ne (elsewhere : a.stage ≠ .begun) : a.turn = a := by
  unfold turn
  split
  next begun => exact absurd begun elsewhere
  next => rfl

theorem hear_of_ne (unasked : a.stage ≠ .listing) (unfetched : a.stage ≠ .fetching) :
    a.hear answer = a := by
  unfold hear
  split
  next listing => exact absurd listing unasked
  next fetching => exact absurd fetching unfetched
  next => rfl

theorem Possible.arrive (possible : Possible registry settings a) (m : Message) :
    Possible registry settings (a.step (.arrive m)) := by
  cases possible <;> constructor <;> assumption

theorem Possible.turn (possible : Possible registry settings a) :
    Possible registry settings a.turn := by
  by_cases begun : a.stage = .begun
  · cases possible with
    | begun stream =>
      cases checked : precheck registry settings with
      | ok =>
        simp only [Attempt.turn, checked, proceed]
        exact .listing stream checked
      | error cause =>
        have other := precheck_innocent.ne_huge checked
        simp only [Attempt.turn, checked, proceed, fail_of_ne _ other]
        exact .refused stream checked
    | _ => cases begun
  · rwa [turn_of_ne begun]

theorem Possible.hear (possible : Possible registry settings a)
    (answer : Except LinkFault Json) : Possible registry settings (a.hear answer) := by
  by_cases listing : a.stage = .listing
  · cases possible with
    | listing stream admitted =>
      cases searched : find settings answer with
      | ok =>
        simp only [Attempt.hear, searched, proceed]
        exact .fetching stream admitted searched
      | error cause =>
        have other := find_innocent.ne_huge searched
        simp only [Attempt.hear, searched, proceed, fail_of_ne _ other]
        exact .missed stream admitted searched
    | _ => cases listing
  · by_cases fetching : a.stage = .fetching
    · cases possible with
      | fetching stream admitted found =>
        cases built : build registry settings answer with
        | ok p =>
          simp only [Attempt.hear, built, proceed]
          exact .connected stream admitted found built
        | error cause =>
          by_cases huge : cause = .replica .hugeEventBuffer
          · subst huge
            simp only [Attempt.hear, built, proceed, fail]
            exact .halted stream admitted found built
          · simp only [Attempt.hear, built, proceed, fail_of_ne _ huge]
            exact .unfit stream admitted found built huge
      | _ => cases fetching
    · rwa [hear_of_ne listing fetching]

theorem Possible.after (possible : Possible registry settings a) (actions : List AttemptAction) :
    Possible registry settings (a.after actions) := by
  induction actions generalizing a with
  | nil => exact possible
  | cons action rest ih =>
    refine ih ?_
    cases action with
    | arrive m => exact possible.arrive m
    | turn => exact possible.turn
    | answer answer => exact possible.hear answer

/-! ### Messages -/

theorem stream_fail (a : Attempt) (cause : SessionFault) : (a.fail cause).stream = a.stream := by
  unfold fail
  split <;> rfl

theorem stream_turn (a : Attempt) : a.turn.stream = a.stream := by
  unfold turn
  split
  · exact proceed_of (fun b => b.stream = a.stream) (stream_fail a) fun _ => rfl
  · rfl

theorem stream_hear (a : Attempt) (answer : Except LinkFault Json) :
    (a.hear answer).stream = a.stream := by
  unfold hear
  split
  · exact proceed_of (fun b => b.stream = a.stream) (stream_fail _) fun _ => rfl
  · exact proceed_of (fun b => b.stream = a.stream) (stream_fail _) fun _ => rfl
  · rfl

/-- Messages arrive and wait; nothing else happens to them. -/
theorem stream_after (a : Attempt) (actions : List AttemptAction) :
    (a.after actions).stream = a.stream ++ actions.filterMap AttemptAction.arrival? := by
  induction actions generalizing a with
  | nil => exact (List.append_nil _).symm
  | cons action rest ih =>
    change ((a.step action).after rest).stream = _
    rw [ih, List.filterMap_cons]
    cases action with
    | arrive m => exact List.append_assoc a.stream [m] _
    | turn => exact congrArg (· ++ _) (stream_turn a)
    | answer answer => exact congrArg (· ++ _) (stream_hear a answer)

/-! ### Progress -/

theorem rank_fail (a : Attempt) (cause : SessionFault) : (a.fail cause).stage.rank = 3 := by
  unfold fail
  split <;> rfl

theorem le_rank_proceed {α : Type} {result : Except SessionFault α} {next : α → Attempt} {n : Nat}
    (bound : n ≤ 3) (each : ∀ found, n ≤ (next found).stage.rank) :
    n ≤ (a.proceed result next).stage.rank :=
  proceed_of (fun b => n ≤ b.stage.rank) (fun cause => (rank_fail a cause).symm ▸ bound) each

/-- A first turn, and every answer after it, brings an attempt closer to its end. -/
theorem rank_turn (a : Attempt) : a.stage.rank ≤ a.turn.stage.rank ∧ 0 < a.turn.stage.rank := by
  unfold turn
  split
  next begun =>
    exact ⟨begun ▸ Nat.zero_le _, le_rank_proceed (n := 1) (by decide) fun _ => Nat.le_refl 1⟩
  next elsewhere =>
    refine ⟨Nat.le_refl _, ?_⟩
    cases stage : a.stage with
    | begun => exact absurd stage elsewhere
    | _ => exact Nat.succ_pos _

theorem rank_hear (a : Attempt) (answer : Except LinkFault Json) :
    a.stage.rank ≤ (a.hear answer).stage.rank
      ∧ (0 < a.stage.rank → a.stage.rank < 3 → a.stage.rank < (a.hear answer).stage.rank) := by
  unfold hear
  split
  next listing =>
    rw [listing]
    exact ⟨le_rank_proceed (n := 1) (by decide) fun _ => Nat.le_succ 1,
      fun _ _ => le_rank_proceed (n := 2) (by decide) fun _ => Nat.le_refl 2⟩
  next fetching =>
    rw [fetching]
    exact ⟨le_rank_proceed (n := 2) (by decide) fun _ => Nat.le_succ 2,
      fun _ _ => le_rank_proceed (n := 3) (by decide) fun _ => Nat.le_refl 3⟩
  next unasked unfetched =>
    refine ⟨Nat.le_refl _, fun positive within => ?_⟩
    cases stage : a.stage with
    | listing => exact absurd stage unasked
    | fetching => exact absurd stage unfetched
    | begun =>
      rw [stage] at positive
      cases positive
    | connected _ | failed _ | halted =>
      rw [stage] at within
      exact absurd within (Nat.lt_irrefl 3)

theorem rank_step (a : Attempt) (action : AttemptAction) :
    a.stage.rank ≤ (a.step action).stage.rank := by
  cases action with
  | arrive m => exact Nat.le_refl _
  | turn => exact (rank_turn a).1
  | answer answer => exact (rank_hear a answer).1

/-- What brings an attempt to its end. -/
def script (first second : Except LinkFault Json) : List AttemptAction :=
  [.turn, .answer first, .answer second]

theorem rank_lt_step {first second : Except LinkFault Json} {action : AttemptAction}
    {others : List AttemptAction}
    (next : (script first second).drop a.stage.rank = action :: others) :
    a.stage.rank < (a.step action).stage.rank := by
  cases stage : a.stage with
  | begun =>
    rw [stage] at next
    cases next
    exact (rank_turn a).2
  | listing | fetching =>
    rw [stage] at next
    cases next
    rw [← stage]
    exact (rank_hear a _).2 (stage ▸ by decide) (stage ▸ by decide)
  | connected _ | failed _ | halted =>
    rw [stage] at next
    cases next

/-- An attempt comes to an end if it still gets its turn and two answers, or what it lacks of them,
whatever else happens to it. -/
theorem isOver_after {first second : Except LinkFault Json} {actions : List AttemptAction}
    (given : ((script first second).drop a.stage.rank).Sublist actions) :
    (a.after actions).stage.isOver = true := by
  -- What the attempt lacks is the end of the script from its rank on.
  induction actions generalizing a with
  | nil =>
    have complete : 3 ≤ a.stage.rank := List.drop_eq_nil_iff.mp (List.sublist_nil.mp given)
    rw [after, List.foldl_nil]
    cases stage : a.stage with
    | connected _ | failed _ | halted => rfl
    | begun | listing | fetching =>
      rw [stage] at complete
      exact absurd complete (by decide)
  | cons action rest ih =>
    apply ih
    rcases List.sublist_cons_iff.mp given with skipped | ⟨others, next, later⟩
    · exact (List.drop_sublist_drop_left _ (rank_step a action)).trans skipped
    · have behind : (script first second).drop (a.stage.rank + 1) = others := by
        rw [← List.tail_drop, next, List.tail_cons]
      rw [← behind] at later
      exact (List.drop_sublist_drop_left _ (rank_lt_step next)).trans later

end Attempt

end TableReplica
