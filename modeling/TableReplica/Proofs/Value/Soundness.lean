import TableReplica.Proofs.Value.Decoding

/-!
# Soundness of decoding

Whatever a column of a schema that has been read makes of a datum is of the type of the column; a
set has the elements of the datum, each in its place; and a column that is no map makes the same of
an element as of the set of it alone, whether it takes it or not (`Schema.Parsed.decode_sound`).
-/

namespace TableReplica

/-! ## Elements -/

/-- Which atoms an atomic type reads as which scalars. -/
inductive AtomicType.Reads : AtomicType → Atom → Scalar → Prop
  | integer (i : Int64) : Reads .integer (.integer i) (.integer i)
  | real (r : Real64) : Reads .real (.real r) (.real r)
  /-- Whole reals may travel as integers. -/
  | whole (i : Int64) : Reads .real (.integer i) (.real (.ofInt i.toInt))
  | boolean (b : Bool) : Reads .boolean (.boolean b) (.boolean b)
  | string (s : String) : Reads .string (.string s) (.string s)
  | uuid (id : String) : Reads .uuid (.uuid id) (.string id)
  | namedUuid (name : String) : Reads .uuid (.namedUuid name) (.string name)

theorem AtomicType.reads_iff {type : AtomicType} {a : Atom} {s : Scalar} :
    type.Reads a s ↔ type.decode? a = some s := by
  constructor
  · intro reads
    cases reads <;> rfl
  · intro decoded
    cases type <;> cases a <;> cases decoded <;> constructor

/-! ## Values -/

/-- Whether a value is of a type: its parts are of the types of its parts. -/
inductive Value.OfType : Value → ValueType → Prop
  | scalar (s : Scalar) : OfType (.scalar s) (.scalar s.type)
  | set {elements : List Scalar} {type : ScalarType} (each : ∀ s ∈ elements, s.type = type) :
    OfType (.set elements) (.set type)
  | map {entries : SortedMap Scalar Scalar} {key mapped : ScalarType}
    (each : ∀ k v, entries.get? k = some v → k.type = key ∧ v.type = mapped) :
    OfType (.map entries) (.map key mapped)

theorem Value.ofType_of_conforms {value : Value} {type : ValueType}
    (conforming : value.conforms type = true) : value.OfType type := by
  cases value with
  | scalar s =>
    cases type with
    | scalar t =>
      cases beq_iff_eq.mp conforming
      exact .scalar s
    | set _ | map _ _ => cases conforming
  | set elements =>
    cases type with
    | set t => exact .set fun s member => beq_iff_eq.mp (List.all_eq_true.mp conforming s member)
    | scalar _ | map _ _ => cases conforming
  | map entries =>
    cases type with
    | map key mapped =>
      refine .map fun k v found => ?_
      have both := List.all_eq_true.mp conforming (k, v) (SortedMap.get?_eq_some_iff.mp found)
      rwa [Bool.and_eq_true, beq_iff_eq, beq_iff_eq] at both
    | scalar _ | set _ => cases conforming

theorem Value.conforms_of_ofType {value : Value} {type : ValueType} (ofType : value.OfType type) :
    value.conforms type = true := by
  cases ofType with
  | scalar s => exact beq_self_eq_true s.type
  | set each => exact List.all_eq_true.mpr fun s member => beq_iff_eq.mpr (each s member)
  | map each =>
    refine List.all_eq_true.mpr fun e member => ?_
    rw [Bool.and_eq_true, beq_iff_eq, beq_iff_eq]
    exact each e.1 e.2 (SortedMap.get?_eq_some_iff.mpr member)

/-! ## Columns -/

namespace ColumnSchema

variable {c : ColumnSchema} {key : AtomicType} {datum : Datum} {value : Value}

/-- A set column reads the elements that a datum lists, one by one. -/
theorem decode_set_iff (kind : c.kind = .set) (keyed : c.keyType = .ok key) :
    c.decode datum = .ok value ↔ ∃ atoms elements, datum.Lists atoms ∧ value = .set elements
      ∧ List.Forall₂ key.Reads atoms elements := by
  rw [decode_eq_ok_iff]
  constructor
  · rintro ⟨key', keyed', decodes⟩
    rw [keyed] at keyed'
    cases keyed'
    cases decodes with
    | set _ lists each =>
      exact ⟨_, _, lists, rfl, each.imp fun _ _ => AtomicType.reads_iff.mpr⟩
    | map isMap => rw [kind] at isMap; cases isMap
    | scalar noSet => exact absurd kind noSet
    | unset isEnumeration => rw [kind] at isEnumeration; cases isEnumeration
  · rintro ⟨atoms, elements, lists, rfl, each⟩
    exact ⟨key, keyed, .set kind lists (each.imp fun _ _ => AtomicType.reads_iff.mp)⟩

/-- An element stands for the set of it alone in each column that is no map, also if the column
refuses it. -/
theorem decode_atom_eq_decode_singleton (noMap : c.kind ≠ .map) (a : Atom) :
    c.decode (.atom a) = c.decode (.set [a]) := by
  rw [decode, decode]
  cases kind : c.kind with
  | map => exact absurd kind noMap
  | set | atomic _ | enumeration => rfl

end ColumnSchema

/-- A column of a schema that has been read decodes nothing but values of its type. If it is a set,
it decodes exactly the data whose elements it can all read, into what it reads in the same order;
and unless it is a map, it makes no difference between an element and the set of it alone. -/
theorem Schema.Parsed.decode_sound {s : Schema} (parsed : s.Parsed) {table column : String}
    {t : TableSchema} {c : ColumnSchema} (present : s.table? table = some t)
    (listed : t.column? column = some c) :
    ∃ key type, c.keyType = .ok key ∧ c.valueType = .ok type
      ∧ (∀ datum value, c.decode datum = .ok value →
        value.conforms type = true ∧ value.OfType type)
      ∧ (c.kind = .set → ∀ datum value, c.decode datum = .ok value ↔
        ∃ atoms elements, datum.Lists atoms ∧ value = .set elements
          ∧ List.Forall₂ key.Reads atoms elements)
      ∧ (c.kind ≠ .map → ∀ a, c.decode (.atom a) = c.decode (.set [a])) := by
  have resolved := parsed.resolved present listed
  obtain ⟨key, keyed⟩ := resolved.exists_keyType
  obtain ⟨type, typed⟩ := resolved.exists_valueType
  refine ⟨key, type, keyed, typed, ?_, ?_, ?_⟩
  · intro datum value decoded
    obtain ⟨key', keyed', decodes⟩ := ColumnSchema.decode_eq_ok_iff.mp decoded
    obtain ⟨type', typed', conforming⟩ := decodes.conforms keyed'
    rw [typed] at typed'
    cases typed'
    exact ⟨conforming, Value.ofType_of_conforms conforming⟩
  · intro kind datum value
    exact ColumnSchema.decode_set_iff kind keyed
  · intro noMap a
    exact ColumnSchema.decode_atom_eq_decode_singleton noMap a

namespace Sample

/-- Two references to one port, and between them one to a port that is inserted. -/
def references : List Atom :=
  [.uuid "2f77b348-9768-4866-b761-89d5177ecda0", .namedUuid "new_port",
    .uuid "2f77b348-9768-4866-b761-89d5177ecda0"]

end Sample

/-- The references come in their order, the one that is made twice as well; and a number is refused
for the same reason as the set of it alone. -/
theorem Schema.Parsed.decode_sound_ports :
    Sample.network.Parsed
      ∧ Sample.network.table? "Switch" = some Sample.switches
      ∧ Sample.switches.column? "ports" = some Sample.ports
      ∧ Sample.ports.decode (.set Sample.references) = .ok (.set [
        .string "2f77b348-9768-4866-b761-89d5177ecda0", .string "new_port",
        .string "2f77b348-9768-4866-b761-89d5177ecda0"])
      ∧ ∃ fault, Sample.ports.decode (.atom (.integer 3)) = .error fault
        ∧ Sample.ports.decode (.set [.integer 3]) = .error fault := by
  have present : Sample.network.table? "Switch" = some Sample.switches := rfl
  have listed : Sample.switches.column? "ports" = some Sample.ports := rfl
  obtain ⟨key, type, keyed, -, -, inOrder, alone⟩ :=
    decode_sound Sample.network_parsed present listed
  cases keyed
  have read : List.Forall₂ AtomicType.uuid.Reads Sample.references _ :=
    .cons (.uuid _) (.cons (.namedUuid _) (.cons (.uuid _) .nil))
  have refused : ∃ fault, Sample.ports.decode (.atom (.integer 3)) = .error fault := ⟨_, rfl⟩
  obtain ⟨fault, refused⟩ := refused
  refine ⟨Sample.network_parsed, present, listed,
    (inOrder rfl _ _).mpr ⟨_, _, .set _, rfl, read⟩, fault, refused, ?_⟩
  rw [← alone (by simp [Sample.ports]), refused]

end TableReplica
