import Mathlib.Data.List.Basic
import TableReplica.Delivery.Dispatcher
import TableReplica.Proofs.Delivery.Roster
import TableReplica.Session.Notice

/-!
# Observers that interfere

Observers need not follow a script. When one is told something, it may look at the roster and at
anything else in the world, enrol and strike observers as often as it likes, itself included, and
fail in the end. A telling goes through the registrations that there were when it began, so none of
this keeps anybody from being told, or has anybody told twice; it counts from the next telling on
(`Roster.told_fairly`). Observers with scripts are a special case (`Scene.notify_eq`).
-/

namespace TableReplica

/-! ## Changes of a roster -/

/-- A change of a roster. -/
inductive RosterChange (κ : Type) where
  | enrol (s : Script κ)
  /-- An observer is registered once more. -/
  | relist (number : Nat) (s : Script κ)
  | strike (number : Nat)

namespace Roster

variable {κ : Type}

/-- The roster after a change. -/
def change (r : Roster κ) : RosterChange κ → Roster κ
  | .enrol s => r.enrol s
  | .relist number s => r.relist number s
  | .strike number => r.strike number

/-- The roster after changes in order. -/
def changeAll (r : Roster κ) (changes : List (RosterChange κ)) : Roster κ := changes.foldl change r

/-- Whether an observer has a registration. -/
def Has (r : Roster κ) (number : Nat) : Prop := ∃ s, (number, s) ∈ r.entries

/-- Strikes an observer, and tells from the number of registrations whether it had any. -/
def unregister (r : Roster κ) (number : Nat) : Roster κ × Bool :=
  let rest := r.strike number
  (rest, rest.entries.length != r.entries.length)

theorem changeAll_append (r : Roster κ) (changes more : List (RosterChange κ)) :
    r.changeAll (changes ++ more) = (r.changeAll changes).changeAll more := List.foldl_append

/-! ### Removal -/

theorem strike_sublist (r : Roster κ) (number : Nat) :
    (r.strike number).entries.Sublist r.entries := List.filter_sublist

/-- An observer that is struck has no registration any more, and the others have theirs. -/
theorem filter_strike (r : Roster κ) (number other : Nat) :
    (r.strike number).entries.filter (fun entry => entry.1 == other) =
      if other = number then [] else r.entries.filter fun entry => entry.1 == other := by
  rw [strike, List.filter_filter]
  split
  next same =>
    subst same
    simp
  next differ =>
    refine List.filter_congr fun entry _ => ?_
    by_cases found : entry.1 = other
    · simp [found, differ]
    · simp [found]

/-- It is said of exactly the observers with a registration that they had one. -/
theorem unregister_eq_true_iff (r : Roster κ) (number : Nat) :
    (r.unregister number).2 = true ↔ r.Has number := by
  rw [unregister, bne_iff_ne, ne_eq, (r.strike_sublist number).length_eq, strike,
    List.filter_eq_self]
  simp [Has]

/-- To withdraw the observer that a name stands for is to unregister it. -/
theorem unregister_eq (r : Roster κ) {name : String} {number : Nat}
    (named : r.known.get? name = some number) :
    r.unregister number = (r.withdraw name, r.isRegistered name) := by
  have listed : r.isRegistered name = true ↔ r.Has number := by
    rw [isRegistered, named]
    simp [Has]
  refine Prod.ext ?_ (Bool.eq_iff_iff.mpr ((unregister_eq_true_iff r number).trans listed.symm))
  rw [withdraw, named]
  rfl

end Roster

/-! ## Telling -/

/-- What an observer does when it is told something. -/
structure Reaction (κ τ : Type) where
  /-- What becomes of the world outside the roster. -/
  world : τ
  /-- The changes that the observer makes to the roster, in order. -/
  changes : List (RosterChange κ)
  failed : Bool

/-- How observers react to news, given the world and the roster as they find them. -/
abbrev Conduct (κ ν τ : Type) := τ → Roster κ → Nat × Script κ → ν → Reaction κ τ

/-- A registration that news was told to, and what came of it. -/
structure Told (κ ν : Type) where
  observer : Nat × Script κ
  news : ν
  changes : List (RosterChange κ)
  failed : Bool

/-- A roster and the world outside it. -/
structure Scene (κ τ : Type) where
  world : τ
  roster : Roster κ

/-- Something that happens outside all tellings. -/
inductive Occasion (κ ε : Type) where
  | change (c : RosterChange κ)
  | arise (e : ε)

/-- The change of the roster that an occasion is. -/
def Occasion.change? {κ ε : Type} : Occasion κ ε → Option (RosterChange κ)
  | .change c => some c
  | .arise _ => none

namespace Scene

variable {κ ε ν τ : Type}

section

variable (shown : ε → Option ν) (conduct : Conduct κ ν τ)

/-- Tells an observer some news. -/
def tell (news : ν) (s : Scene κ τ) (observer : Nat × Script κ) : Scene κ τ × Told κ ν :=
  let reaction := conduct s.world s.roster observer news
  (⟨reaction.world, s.roster.changeAll reaction.changes⟩,
    ⟨observer, news, reaction.changes, reaction.failed⟩)

/-- Tells some observers news, one after the other. -/
def tellEach (news : ν) : List (Nat × Script κ) → Scene κ τ → Scene κ τ × List (Told κ ν)
  | [], s => (s, [])
  | observer :: rest, s =>
    let (s, told) := s.tell conduct news observer
    let (s, later) := tellEach news rest s
    (s, told :: later)

/-- Tells news to all registrations that there are now. -/
def tellAll (s : Scene κ τ) (news : ν) : Scene κ τ × List (Told κ ν) :=
  tellEach conduct news s.roster.entries s

/-- Something happens. What there is to be told of it, if anything, is told. -/
def happen (s : Scene κ τ) : Occasion κ ε → Scene κ τ × List (Told κ ν)
  | .change c => ({ s with roster := s.roster.change c }, [])
  | .arise e =>
    match shown e with
    | some news => s.tellAll conduct news
    | none => (s, [])

/-- The scene after some things have happened in order. -/
def after (s : Scene κ τ) (occasions : List (Occasion κ ε)) : Scene κ τ :=
  occasions.foldl (fun s o => (s.happen shown conduct o).1) s

/-- All changes of the roster while some things happen, by observers or not, in order. -/
def changes (s : Scene κ τ) : List (Occasion κ ε) → List (RosterChange κ)
  | [] => []
  | o :: rest =>
    let (next, told) := s.happen shown conduct o
    o.change?.toList ++ told.flatMap Told.changes ++ changes next rest

end

variable {shown : ε → Option ν} {conduct : Conduct κ ν τ}

/-- Whatever the observers do, each of them is told. -/
theorem told_tellEach (news : ν) (observers : List (Nat × Script κ)) (s : Scene κ τ) :
    (tellEach conduct news observers s).2.map (fun t => (t.observer, t.news)) =
      observers.map fun observer => (observer, news) := by
  -- The first of them leaves some scene behind, but the others are the others all the same.
  induction observers generalizing s with
  | nil => rfl
  | cons observer rest ih =>
    rw [tellEach, List.map_cons, List.map_cons, ih]
    rfl

theorem news_of_told {news : ν} {observers : List (Nat × Script κ)} {s : Scene κ τ} {t : Told κ ν}
    (told : t ∈ (tellEach conduct news observers s).2) : t.news = news := by
  have pair := List.mem_map_of_mem (f := fun t => (t.observer, t.news)) told
  rw [told_tellEach] at pair
  obtain ⟨observer, -, same⟩ := List.mem_map.mp pair
  exact (congrArg Prod.snd same).symm

/-- While some are told news, the roster changes as they change it. -/
theorem roster_tellEach (news : ν) (observers : List (Nat × Script κ)) (s : Scene κ τ) :
    (tellEach conduct news observers s).1.roster =
      s.roster.changeAll ((tellEach conduct news observers s).2.flatMap Told.changes) := by
  induction observers generalizing s with
  | nil => rfl
  | cons observer rest ih =>
    rw [tellEach, List.flatMap_cons, Roster.changeAll_append, ih]
    rfl

theorem roster_happen (s : Scene κ τ) (o : Occasion κ ε) :
    (s.happen shown conduct o).1.roster = s.roster.changeAll
      (o.change?.toList ++ (s.happen shown conduct o).2.flatMap Told.changes) := by
  cases o with
  | change c => rfl
  | arise e =>
    rw [happen]
    cases shown e with
    | none => rfl
    | some news => exact roster_tellEach news s.roster.entries s

/-- In the end, the roster has changed by all changes that anybody has made. -/
theorem roster_after (s : Scene κ τ) (occasions : List (Occasion κ ε)) :
    (s.after shown conduct occasions).roster =
      s.roster.changeAll (s.changes shown conduct occasions) := by
  induction occasions generalizing s with
  | nil => rfl
  | cons o rest ih =>
    rw [changes, Roster.changeAll_append, ← roster_happen]
    exact ih _

end Scene

/-! ## Observers with scripts -/

section

variable {κ ν : Type}

/-- The changes that a script makes to a roster. -/
def Script.changes (s : Script κ) (r : Roster κ) : List (RosterChange κ) :=
  ((s.withdraws.bind r.known.get?).map .strike).toList ++ (s.enrols.map .enrol).toList

theorem Roster.perform_eq (r : Roster κ) (s : Script κ) :
    r.perform s = r.changeAll (s.changes r) := by
  have withdrawn : (s.withdraws.map r.withdraw).getD r =
      r.changeAll ((s.withdraws.bind r.known.get?).map .strike).toList := by
    cases s.withdraws with
    | none => rfl
    | some name =>
      rw [Option.map_some, Option.getD_some, withdraw, Option.bind_some]
      cases r.known.get? name <;> rfl
  rw [perform, Script.changes, changeAll_append, ← withdrawn]
  cases s.enrols <;> rfl

variable [DecidableEq κ]

/-- The conduct of observers that follow their scripts, for news of certain kinds. -/
def Script.conduct (kind : ν → κ) : Conduct κ ν Unit := fun _ r observer news =>
  let (_, s) := observer
  if s.hears.contains (kind news) then ⟨(), s.changes r, s.fails.contains (kind news)⟩
  else ⟨(), [], false⟩

/-- The call of an observer that was told something, if that meant anything to it. -/
def Told.call? (kind : ν → κ) (t : Told κ ν) : Option Call :=
  let (_, s) := t.observer
  if s.hears.contains (kind t.news) then some ⟨s.name, t.failed⟩ else none

/-- To call an observer with a script is to tell it the news. -/
theorem Roster.call_eq (kind : ν → κ) (news : ν) (observer : Nat × Script κ) (r : Roster κ) :
    call (kind news) observer.2 r =
      let (scene, told) := Scene.tell (Script.conduct kind) news ⟨(), r⟩ observer
      (scene.roster, (told.call? kind).toList) := by
  obtain ⟨number, s⟩ := observer
  rw [call]
  by_cases hears : s.hears.contains (kind news) = true
  · simp only [if_pos hears, Scene.tell, Script.conduct, Told.call?, perform_eq]
    rfl
  · simp only [if_neg hears, Scene.tell, Script.conduct, Told.call?]
    rfl

theorem Roster.callAll_eq (kind : ν → κ) (news : ν) (observers : List (Nat × Script κ))
    (r : Roster κ) : callAll (kind news) (observers.map Prod.snd) r =
      let (scene, told) := Scene.tellEach (Script.conduct kind) news observers ⟨(), r⟩
      (scene.roster, told.filterMap (Told.call? kind)) := by
  induction observers generalizing r with
  | nil => rfl
  | cons observer rest ih =>
    rw [List.map_cons, callAll, call_eq, Scene.tellEach]
    simp only [ih, List.filterMap_cons]
    cases (Scene.tell (Script.conduct kind) news ⟨(), r⟩ observer).2.call? kind <;> rfl

/-- To notify a roster of observers with scripts is to tell news of the kind to all of them. What is
noted of a call may depend on the news. -/
theorem Roster.notify_eq {β : Type} (kind : ν → κ) (note : Call → ν → β) (news : ν)
    (r : Roster κ) :
    ((r.notify (kind news)).1, (r.notify (kind news)).2.map (note · news)) =
      let (scene, told) := Scene.tellAll (Script.conduct kind) ⟨(), r⟩ news
      (scene.roster, told.filterMap fun t => (t.call? kind).map (note · t.news)) := by
  rw [notify, callAll_eq]
  refine Prod.ext rfl ?_
  rw [List.map_filterMap]
  exact List.filterMap_congr fun t told => by rw [Scene.news_of_told told]

end

/-- To dispatch an event is to tell the observers what there is to be shown of it. -/
theorem Delivery.dispatch_eq (e : Event) (r : Roster EventKind) :
    dispatch e r =
      let (scene, told) := Scene.happen Event.report? (Script.conduct Event.kind) ⟨(), r⟩ (.arise e)
      (scene.roster, told.filterMap fun t => (t.call? Event.kind).map (⟨·, t.news⟩)) := by
  rw [dispatch, Scene.happen]
  cases e.report? with
  | none => rfl
  | some shown => exact Roster.notify_eq Event.kind Delivered.mk shown r

/-- To give a notice is to tell it to the listeners. -/
theorem Notice.give_eq_tellAll (n : Notice) (found : Store) (r : Roster NoticeKind) :
    n.give found r =
      let (scene, told) := Scene.happen some (Script.conduct Notice.kind) ⟨(), r⟩ (.arise n)
      (scene.roster, told.filterMap fun t => (t.call? Notice.kind).map (⟨·, t.news, found⟩)) :=
  Roster.notify_eq Notice.kind (fun call notice => Notified.mk call notice found) n r

/-- An event has the records that its kind calls for. -/
def Event.Complete (e : Event) : Prop :=
  match e.kind with
  | .add => e.new.isSome
  | .update => e.old.isSome ∧ e.new.isSome
  | .delete => e.old.isSome

/-- An event is shown as what it is, unless it lacks a record. -/
theorem Event.report?_iff (e : Event) :
    ((∃ shown, e.report? = some shown) ↔ e.Complete)
      ∧ ∀ shown, e.report? = some shown → shown.kind = e.kind ∧ shown.table = e.table := by
  obtain ⟨kind, table, old, new⟩ := e
  cases kind <;> cases old <;> cases new <;> simp [report?, Complete, add, update, delete]

/-- Whatever happens, and whatever the observers do when they are told something:

* When there is news, it is told once to each registration that there is when the telling begins, in
  order. Each of these registrations is there because of the changes that have been made so far, and
  the changes that are made meanwhile count for later tellings.
* To strike an observer is to remove all of its registrations and no others, and the others keep
  their order. To unregister it tells whether it had any.
* There is news if an event has the records that its kind calls for, and with every notice.
  Observers with scripts are told of it in this way. -/
theorem Roster.told_fairly :
    (∀ (κ ε ν τ : Type) (shown : ε → Option ν) (conduct : Conduct κ ν τ) (start : Scene κ τ)
        (before : List (Occasion κ ε)) (e : ε),
        let now := start.after shown conduct before
        let (next, told) := now.happen shown conduct (.arise e)
        (∀ news, shown e = some news → told.map (fun t => (t.observer, t.news)) =
            now.roster.entries.map fun observer => (observer, news))
          ∧ (shown e = none → told = [])
          ∧ now.roster = start.roster.changeAll (start.changes shown conduct before)
          ∧ next.roster = now.roster.changeAll (told.flatMap Told.changes))
      ∧ (∀ (κ : Type) (r : Roster κ) (number : Nat),
        (r.strike number).entries.Sublist r.entries
          ∧ (∀ other, (r.strike number).entries.filter (fun entry => entry.1 == other) =
            if other = number then [] else r.entries.filter fun entry => entry.1 == other)
          ∧ (r.unregister number).1 = r.strike number
          ∧ ((r.unregister number).2 = true ↔ r.Has number)
          ∧ ∀ name, r.known.get? name = some number →
            r.unregister number = (r.withdraw name, r.isRegistered name))
      ∧ (∀ e : Event, ((∃ shown, e.report? = some shown) ↔ e.Complete)
        ∧ ∀ shown, e.report? = some shown → shown.kind = e.kind ∧ shown.table = e.table)
      ∧ (∀ (e : Event) (r : Roster EventKind),
        let (scene, told) :=
          Scene.happen Event.report? (Script.conduct Event.kind) ⟨(), r⟩ (.arise e)
        Delivery.dispatch e r = (scene.roster,
          told.filterMap fun t => (t.call? Event.kind).map fun call => ⟨call, t.news⟩))
      ∧ ∀ (n : Notice) (found : Store) (r : Roster NoticeKind),
        let (scene, told) := Scene.happen some (Script.conduct Notice.kind) ⟨(), r⟩ (.arise n)
        n.give found r = (scene.roster,
          told.filterMap fun t => (t.call? Notice.kind).map fun call => ⟨call, t.news, found⟩) := by
  refine ⟨fun κ ε ν τ shown conduct start before e => ?_,
    fun κ r number => ⟨r.strike_sublist number, r.filter_strike number, rfl,
      r.unregister_eq_true_iff number, fun name => r.unregister_eq⟩,
    Event.report?_iff, Delivery.dispatch_eq, Notice.give_eq_tellAll⟩
  refine ⟨fun news there => ?_, fun nothing => ?_, Scene.roster_after start before,
    Scene.roster_happen _ (.arise e)⟩
  · simp only [there]
    exact Scene.told_tellEach news _ _
  · simp only [nothing]

/-! ## Examples -/

namespace Sample

/-- An observer that hears of all kinds of news that there are. -/
def bystander {κ : Type} (kinds : List κ) : Script κ := { name := "bystander", hears := kinds }

/-- A roster of two observers, of which the first is registered again behind the second. -/
def crowd : Roster NoticeKind :=
  let s := bystander NoticeKind.all
  ((({} : Roster NoticeKind).enrol s).enrol s).relist 0 s

/-- The first observer strikes itself as soon as it is told anything, and fails. -/
def desert : Conduct NoticeKind Notice Unit := fun _ _ (number, _) _ =>
  if number = 0 then ⟨(), [.strike 0], true⟩ else ⟨(), [], false⟩

end Sample

/-- An observer that strikes itself and fails when it is told of the end is told once more, for its
other registration, and so is the observer between the two; the latter alone stays on the roster. -/
theorem Roster.told_fairly_deserter :
    let (next, told) := Scene.happen some Sample.desert ⟨(), Sample.crowd⟩ (.arise .disconnected)
    told.map (fun t => (t.observer.1, t.failed)) = [(0, true), (1, false), (0, true)]
      ∧ told.map (fun t => (t.observer, t.news)) =
        Sample.crowd.entries.map (fun observer => (observer, Notice.disconnected))
      ∧ next.roster = (Sample.crowd.strike 0).strike 0
      ∧ next.roster.entries.map Prod.fst = [1] := by
  obtain ⟨served, -, -, changed⟩ := told_fairly.1 NoticeKind Notice Notice Unit some Sample.desert
    ⟨(), Sample.crowd⟩ [] .disconnected
  exact ⟨rfl, served .disconnected rfl, changed, rfl⟩

/-- An event that lacks the record of its kind is not shown to anybody, not even to an observer that
hears of its kind. -/
theorem Delivery.dispatch_incomplete :
    let e : Event := ⟨.add, "Item", none, none⟩
    let r := ({} : Roster EventKind).enrol (Sample.bystander EventKind.all)
    r.callsFor e.kind = [⟨"bystander", false⟩] ∧ (Delivery.dispatch e r).2 = []
      ∧ ¬ e.Complete := by
  refine ⟨rfl, rfl, ?_⟩
  nofun

end TableReplica
