import TableReplica.Proofs.Replica.Creation
import TableReplica.Proofs.Replica.Effect

/-!
# What a store holds

Whatever is reported to a replica, with whatever identifiers and data, the record that it holds for
a row is of the type that stands for the rows of the table, and has the identifier of the row
(`Store.Sound`, `Replica.sound`).
-/

namespace TableReplica

/-- A record stands for the row with an identifier. -/
structure Binding.Represents (b : Binding) (id : String) (r : Record) : Prop where
  typed : r.type = b.layout.type
  identified : b.identity r = id

namespace Binding

variable {b : Binding} {id : String} {known : Option Record} {row : WireRow} {base r : Record}

theorem represents_of_recordOf (typed : base.type = b.layout.type)
    (made : b.recordOf id base row = .ok r) : b.Represents id r :=
  ⟨(type_of_recordOf made).trans typed, identity_of_recordOf made⟩

theorem represents_of_previous (represented : ∀ k ∈ known, b.Represents id k)
    (found : b.previous id known row = .ok r) : b.Represents id r := by
  cases known with
  | none => exact represents_of_recordOf rfl found
  | some k =>
    cases found
    exact represented r rfl

/-- What an effect leaves of a row stands for it, and so do the records that its event shows. -/
theorem Does.represents (represented : ∀ k ∈ known, b.Represents id k) {e : Effect}
    (does : Does b id known e) :
    (∀ r ∈ e.record, b.Represents id r) ∧ ∀ r ∈ e.event.old, b.Represents id r := by
  cases does with
  | add made =>
    refine ⟨?_, by rintro _ ⟨⟩⟩
    rintro _ ⟨⟩
    exact represents_of_recordOf rfl made
  | update before made =>
    have previous := represents_of_previous represented before
    refine ⟨?_, ?_⟩
    · rintro _ ⟨⟩
      exact represents_of_recordOf previous.typed made
    · rintro _ ⟨⟩
      exact previous
  | delete before =>
    refine ⟨by rintro _ ⟨⟩, ?_⟩
    rintro _ ⟨⟩
    exact represents_of_previous represented before

theorem represents_recordAfter (represented : ∀ k ∈ known, b.Represents id k) (c : RowChange) :
    ∀ r ∈ b.recordAfter id known c, b.Represents id r := by
  rw [recordAfter]
  split
  next e has => exact ((effect?_cases has).represents represented).1
  next => exact represented

end Binding

/-- Each record of a table stands for the row under whose identifier it is found. -/
def StoredTable.Sound (t : StoredTable) : Prop :=
  ∀ id, ∀ r ∈ t.rows.get? id, t.binding.Represents id r

namespace StoredTable.Sound

theorem applyRow {a : Applied StoredTable} (sound : a.state.Sound) (id : String) (c : RowChange) :
    (StoredTable.applyRow a id c).state.Sound := by
  intro other
  rw [binding_applyRow]
  by_cases same : other = id
  · subst same
    rw [rows_applyRow_self]
    exact Binding.represents_recordAfter (sound other) c
  · rw [rows_applyRow_of_ne a id c same]
    exact sound other

theorem apply {t : StoredTable} (sound : t.Sound) (changes : TableChanges) :
    (t.apply changes).state.Sound :=
  List.foldlRecOn changes.toList _ (motive := fun a : Applied StoredTable => a.state.Sound) sound
    fun _ kept e _ => kept.applyRow e.1 e.2

end StoredTable.Sound

/-- Each table is found under its own name, and its records stand for its rows. -/
structure Store.Sound (s : Store) : Prop where
  named : ∀ name, ∀ t ∈ s.table? name, t.binding.table = name
  tables : ∀ name, ∀ t ∈ s.table? name, t.Sound

namespace Store.Sound

variable {schema : Schema} {registry : Registry} {s : Store}

theorem applyTable {a : Applied Store} (sound : a.state.Sound) (name : String)
    (changes : TableChanges) : (Store.applyTable a name changes).state.Sound := by
  have tables : ∀ other, ∀ t ∈ (Store.applyTable a name changes).state.table? other,
      t.binding.table = other ∧ t.Sound := by
    intro other t followed
    by_cases same : other = name
    · subst same
      rw [table?_applyTable_self] at followed
      obtain ⟨before, present, rfl⟩ := Option.map_eq_some_iff.mp followed
      rw [StoredTable.binding_apply]
      exact ⟨sound.named other before present, (sound.tables other before present).apply changes⟩
    · rw [table?_applyTable_of_ne a name changes same] at followed
      exact ⟨sound.named other t followed, sound.tables other t followed⟩
  exact ⟨fun other t followed => (tables other t followed).1,
    fun other t followed => (tables other t followed).2⟩

theorem apply (sound : s.Sound) (changes : Changes) : (s.apply changes).state.Sound :=
  List.foldlRecOn changes.toList _ (motive := fun a : Applied Store => a.state.Sound) sound
    fun _ kept e _ => kept.applyTable e.1 e.2

end Store.Sound

theorem Store.sound_new {schema : Schema} {registry : Registry} {s : Store}
    (created : Store.new schema registry = .ok s) : s.Sound := by
  have tables := table?_new created
  constructor
  · intro name t followed
    rw [tables name] at followed
    obtain ⟨b, bound, rfl⟩ := Option.map_eq_some_iff.mp followed
    exact Registry.table_of_binding? bound
  · intro name t followed id r found
    rw [tables name] at followed
    obtain ⟨b, -, rfl⟩ := Option.map_eq_some_iff.mp followed
    cases found

/-- What a replica holds is sound, whatever has been reported to it. -/
theorem Replica.sound {schema : Schema} {registry : Registry} {capacity : Nat} {start : Replica}
    (created : Replica.new schema registry capacity = .ok start) (reports : List Changes) :
    (start.populateAll reports).1.store.Sound := by
  rw [store_populateAll]
  exact Store.applyAll_invariant Store.Sound (fun _ changes kept => kept.apply changes)
    (Store.sound_new (new_eq_ok_iff.mp created).1) reports

end TableReplica
