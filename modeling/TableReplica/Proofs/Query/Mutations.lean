import TableReplica.Proofs.Query.Bounds
import TableReplica.Proofs.Value.Soundness

/-!
# Mutations

The operands of mutations are encoded by themselves: not only values of the type of a column are
taken, but also a single element for calculating with a set and a list of keys for deleting from a
map (`ColumnSchema.exists_encodeOperand_iff`). Whichever form an operand has, its datum carries it,
atom by atom. The operations that mutate the selected rows all carry the same mutations, one for
each change that is asked for, and there are such operations unless something is wrong with the
selection, the record type or one of the changes (`Replica.mutations_faithful`).
-/

namespace TableReplica

/-! ## Operands -/

/-- Whether an atom is of an atomic type itself. An integer is no real, even though whole reals may
travel as integers. -/
inductive AtomicType.Proper : AtomicType → Atom → Prop
  | integer (i : Int64) : Proper .integer (.integer i)
  | real (r : Real64) : Proper .real (.real r)
  | boolean (b : Bool) : Proper .boolean (.boolean b)
  | string (s : String) : Proper .string (.string s)
  | uuid (id : String) : Proper .uuid (.uuid id)
  | namedUuid (name : String) : Proper .uuid (.namedUuid name)

theorem AtomicType.proper_encode (type : AtomicType) {s : Scalar}
    (typed : s.type = .ofAtomic type) : type.Proper (type.encode s) := by
  cases type <;> cases s <;> cases typed
  case uuid.string.refl id =>
    rw [encode, if_pos rfl, Atom.reference]
    split
    next => exact .uuid id
    next => exact .namedUuid id
  all_goals constructor

theorem Mutator.isArithmetic_iff {mutator : Mutator} :
    mutator.isArithmetic = true ↔ mutator ≠ .insert ∧ mutator ≠ .delete := by
  cases mutator <;> simp [isArithmetic]

namespace ColumnSchema

variable {c : ColumnSchema} {given : Except ConversionFault AtomicType} {type : AtomicType}
  {mutator : Mutator} {value : Value} {datum : Datum} {s : Scalar} {a : Atom}

/-- Whether an atom carries a scalar as an element of the type that a column gives for it: it is of
that type, and the column decodes it into the scalar. -/
def CarriesAs (c : ColumnSchema) (given : Except ConversionFault AtomicType) (s : Scalar)
    (a : Atom) : Prop :=
  ∃ type, given = .ok type ∧ type.Proper a ∧ c.decodeAtom type a = .ok s

/-- Whether a datum carries a value, with an atom for each of its scalars, in the same order. -/
inductive Carries (c : ColumnSchema) : Value → Datum → Prop
  | element {s : Scalar} {a : Atom} (carried : c.CarriesAs c.keyType s a) :
    Carries c (.scalar s) (.atom a)
  | elements {elements : List Scalar} {atoms : List Atom}
    (each : List.Forall₂ (c.CarriesAs c.keyType) elements atoms) :
    Carries c (.set elements) (.set atoms)
  | entries {m : SortedMap Scalar Scalar} {entries : List (Atom × Atom)}
    (each : List.Forall₂ (fun e carrier => c.CarriesAs c.keyType e.1 carrier.1
      ∧ c.CarriesAs c.mappedType e.2 carrier.2) m.toList entries) :
    Carries c (.map m) (.map entries)

/-- Whether a scalar is of the type of the elements or keys of a column. -/
def TakesKey (c : ColumnSchema) (s : Scalar) : Prop :=
  ∃ key, c.keyType = .ok key ∧ s.type = .ofAtomic key

/-- Whether a value can be the operand of a mutation of a column: a value of the column, a single
element for calculating with a set, or keys for deleting from a map. -/
inductive TakesOperand (c : ColumnSchema) (mutator : Mutator) : Value → Prop
  | whole {value : Value} {type : ValueType} (typed : c.valueType = .ok type)
    (ofType : value.OfType type) : TakesOperand c mutator value
  | element {s : Scalar} (set : c.kind = .set)
    (arithmetic : mutator ≠ .insert ∧ mutator ≠ .delete) (taken : c.TakesKey s) :
    TakesOperand c mutator (.scalar s)
  | keys {keys : List Scalar} (map : c.kind = .map) (delete : mutator = .delete)
    (taken : ∀ s ∈ keys, c.TakesKey s) : TakesOperand c mutator (.set keys)

/-- The parts of a value of a column are of the types that the column gives for them. -/
theorem typed_of_ofType {key : AtomicType} {whole : ValueType} (typed : c.valueType = .ok whole)
    (keyed : c.keyType = .ok key) (ofType : value.OfType whole) :
    match value with
    | .scalar s => s.type = .ofAtomic key
    | .set elements => ∀ s ∈ elements, s.type = .ofAtomic key
    | .map m => ∃ mapped, c.mappedType = .ok mapped
      ∧ ∀ e ∈ m.toList, e.1.type = .ofAtomic key ∧ e.2.type = .ofAtomic mapped := by
  obtain ⟨key', keyed', byKind⟩ := valueType_eq_ok_iff.mp typed
  cases keyed.symm.trans keyed'
  cases kind : c.kind with
  | set =>
    rw [kind] at byKind
    subst byKind
    cases ofType with
    | set each => exact each
  | map =>
    rw [kind] at byKind
    obtain ⟨mapped, known, rfl⟩ := byKind
    cases ofType with
    | map each =>
      exact ⟨mapped, known, fun e listed => each e.1 e.2 (SortedMap.get?_eq_some_iff.mpr listed)⟩
  | atomic _ | enumeration =>
    rw [kind] at byKind
    cases ofType with
    | scalar s => exact ValueType.scalar.inj byKind
    | set | map => cases byKind

theorem carriesAs_encode (known : given = .ok type) (typed : s.type = .ofAtomic type) :
    c.CarriesAs given s (type.encode s) :=
  ⟨type, known, type.proper_encode typed, c.decodeAtom_encode type typed⟩

theorem carries_of_encode (encoded : c.encode value = .ok datum) : c.Carries value datum := by
  obtain ⟨whole, key, typed, conforming, keyed, shape⟩ := eq_of_encode encoded
  have parts := typed_of_ofType typed keyed (Value.ofType_of_conforms conforming)
  cases value with
  | scalar s =>
    subst shape
    exact .element (carriesAs_encode keyed parts)
  | set elements =>
    subst shape
    refine .elements (List.forall₂_map_right_iff.mpr (List.forall₂_same.mpr fun s member => ?_))
    exact carriesAs_encode keyed (parts s member)
  | map m =>
    obtain ⟨mapped, known, rfl⟩ := shape
    obtain ⟨mapped', known', parts⟩ := parts
    cases known.symm.trans known'
    refine .entries (List.forall₂_map_right_iff.mpr (List.forall₂_same.mpr fun e member => ?_))
    obtain ⟨keyTyped, mappedTyped⟩ := parts e member
    exact ⟨carriesAs_encode keyed keyTyped, carriesAs_encode known mappedTyped⟩

theorem encodeKey_eq_ok_iff : c.encodeKey s = .ok a ↔
    ∃ key, c.keyType = .ok key ∧ s.type = .ofAtomic key ∧ key.encode s = a := by
  rw [encodeKey, Except.bind_eq_ok_iff]
  refine exists_congr fun key => and_congr_right fun _ => ?_
  split
  next typed => exact ⟨fun made => ⟨typed, Except.ok.inj made⟩, fun ⟨_, same⟩ => same ▸ rfl⟩
  next mistyped => exact iff_of_false nofun fun both => mistyped both.1

theorem exists_encodeKey_iff : (∃ a, c.encodeKey s = .ok a) ↔ c.TakesKey s := by
  simp only [encodeKey_eq_ok_iff]
  constructor
  · rintro ⟨a, key, keyed, typed, -⟩
    exact ⟨key, keyed, typed⟩
  · rintro ⟨key, keyed, typed⟩
    exact ⟨_, key, keyed, typed, rfl⟩

theorem carriesAs_of_encodeKey (encoded : c.encodeKey s = .ok a) : c.CarriesAs c.keyType s a := by
  obtain ⟨key, keyed, typed, rfl⟩ := encodeKey_eq_ok_iff.mp encoded
  exact carriesAs_encode keyed typed

theorem takesOperand_of_encode (encoded : c.encode value = .ok datum) :
    c.TakesOperand mutator value := by
  obtain ⟨whole, -, typed, conforming, -⟩ := eq_of_encode encoded
  exact .whole typed (Value.ofType_of_conforms conforming)

/-- An operand that is encoded is one that the column takes, and its datum carries it. -/
theorem carries_of_encodeOperand (encoded : c.encodeOperand mutator value = .ok datum) :
    c.TakesOperand mutator value ∧ c.Carries value datum := by
  unfold encodeOperand at encoded
  split at encoded
  next s set =>
    split at encoded
    next arithmetic =>
      obtain ⟨a, image, made⟩ := Except.bind_eq_ok_iff.mp encoded
      cases made
      exact ⟨.element set (Mutator.isArithmetic_iff.mp arithmetic)
        (exists_encodeKey_iff.mp ⟨a, image⟩), .element (carriesAs_of_encodeKey image)⟩
    next => exact ⟨takesOperand_of_encode encoded, carries_of_encode encoded⟩
  next keys map =>
    split at encoded
    next delete =>
      obtain ⟨atoms, images, made⟩ := Except.bind_eq_ok_iff.mp encoded
      cases made
      refine ⟨.keys map delete fun s member => ?_, .elements ?_⟩
      · exact exists_encodeKey_iff.mp (Except.exists_image_of_mapM images member)
      · exact (Except.mapM_eq_ok_iff.mp images).imp fun _ _ => carriesAs_of_encodeKey
    next => exact ⟨takesOperand_of_encode encoded, carries_of_encode encoded⟩
  next => exact ⟨takesOperand_of_encode encoded, carries_of_encode encoded⟩

/-- A value of a column is none of the special operands. -/
theorem encodeOperand_of_ofType {whole : ValueType} (typed : c.valueType = .ok whole)
    (ofType : value.OfType whole) : c.encodeOperand mutator value = c.encode value := by
  obtain ⟨key, -, byKind⟩ := valueType_eq_ok_iff.mp typed
  unfold encodeOperand
  split
  next s set =>
    rw [set] at byKind
    subst byKind
    cases ofType
  next keys map =>
    rw [map] at byKind
    obtain ⟨mapped, -, rfl⟩ := byKind
    cases ofType
  next => rfl

theorem exists_encodeOperand (taken : c.TakesOperand mutator value) :
    ∃ datum, c.encodeOperand mutator value = .ok datum := by
  cases taken with
  | whole typed ofType =>
    rw [encodeOperand_of_ofType typed ofType]
    exact exists_encode typed (Value.conforms_of_ofType ofType)
  | element set arithmetic taken =>
    obtain ⟨a, image⟩ := exists_encodeKey_iff.mpr taken
    unfold encodeOperand
    rw [set]
    exact ⟨.atom a, (if_pos (Mutator.isArithmetic_iff.mpr arithmetic)).trans
      (Except.bind_eq_ok_iff.mpr ⟨a, image, rfl⟩)⟩
  | keys map delete taken =>
    obtain ⟨atoms, images⟩ :=
      Except.exists_mapM fun s member => exists_encodeKey_iff.mpr (taken s member)
    unfold encodeOperand
    rw [map]
    exact ⟨.set atoms, (if_pos delete).trans (Except.bind_eq_ok_iff.mpr ⟨atoms, images, rfl⟩)⟩

/-- An operand is encoded exactly if the column takes it. -/
theorem exists_encodeOperand_iff :
    (∃ datum, c.encodeOperand mutator value = .ok datum) ↔ c.TakesOperand mutator value :=
  ⟨fun ⟨_, encoded⟩ => (carries_of_encodeOperand encoded).1, exists_encodeOperand⟩

end ColumnSchema

/-! ## Changes of fields -/

namespace FieldMutation

/-- Whether a mutation is what a change of a field of the records of a table comes to: it changes
the column that the field stands for, in the same way, and carries the value. -/
inductive ComesTo (type : RecordType) (t : TableSchema) (change : FieldMutation) : Mutation → Prop
  | column {f : Field} {c : ColumnSchema} {datum : Datum} (member : f ∈ type.fields)
    (named : f.name = change.field) (present : t.column? f.column = some c)
    (carried : c.Carries change.value datum) :
    ComesTo type t change ⟨f.column, change.mutator, datum⟩

/-- What can be wrong with a change of a field of the records of a table. -/
inductive Faulty (type : RecordType) (t : TableSchema) (change : FieldMutation) : Prop
  | noField (unknown : ∀ f ∈ type.fields, f.name ≠ change.field)
  | noColumn {f : Field} (member : f ∈ type.fields) (named : f.name = change.field)
    (absent : t.column? f.column = none)
  | noOperand {f : Field} {c : ColumnSchema} (member : f ∈ type.fields)
    (named : f.name = change.field) (present : t.column? f.column = some c)
    (refused : ¬ c.TakesOperand change.mutator change.value)

end FieldMutation

namespace Binding

variable {b : Binding} {change : FieldMutation} {m : Mutation}

theorem mutation_eq_ok_iff : b.mutation change = .ok m ↔ ∃ f ∈ b.layout.type.fields, ∃ c datum,
    f.name = change.field ∧ b.schema.column? f.column = some c
      ∧ c.encodeOperand change.mutator change.value = .ok datum
      ∧ m = ⟨f.column, change.mutator, datum⟩ := by
  rw [mutation, Except.bind_eq_ok_iff]
  constructor
  · rintro ⟨⟨column, c⟩, known, made⟩
    obtain ⟨datum, encoded, made⟩ := Except.bind_eq_ok_iff.mp made
    cases made
    obtain ⟨f, member, named, rfl, present⟩ := columnOf_eq_ok_iff.mp known
    exact ⟨f, member, c, datum, named, present, Except.mapError_eq_ok_iff.mp encoded, rfl⟩
  · rintro ⟨f, member, c, datum, named, present, encoded, rfl⟩
    exact ⟨(f.column, c), columnOf_eq_ok_iff.mpr ⟨f, member, named, rfl, present⟩,
      Except.bind_eq_ok_iff.mpr ⟨datum, Except.mapError_eq_ok_iff.mpr encoded, rfl⟩⟩

theorem comesTo_of_mutation (made : b.mutation change = .ok m) :
    change.ComesTo b.layout.type b.schema m := by
  obtain ⟨f, member, c, datum, named, present, encoded, rfl⟩ := mutation_eq_ok_iff.mp made
  exact .column member named present (ColumnSchema.carries_of_encodeOperand encoded).2

/-- A change comes to a mutation unless something is wrong with it. -/
theorem exists_mutation_iff :
    (∃ m, b.mutation change = .ok m) ↔ ¬ change.Faulty b.layout.type b.schema := by
  constructor
  · rintro ⟨m, made⟩ faulty
    obtain ⟨f, member, c, datum, named, present, encoded, -⟩ := mutation_eq_ok_iff.mp made
    -- There are no two fields with the name.
    have unique : ∀ g ∈ b.layout.type.fields, g.name = change.field → g = f :=
      fun g member' named' => List.inj_on_of_nodup_map b.layout.type.namesDistinct member' member
        (named'.trans named.symm)
    cases faulty with
    | noField unknown => exact unknown f member named
    | noColumn member' named' absent =>
      obtain rfl := unique _ member' named'
      cases present.symm.trans absent
    | noOperand member' named' present' refused =>
      obtain rfl := unique _ member' named'
      cases present.symm.trans present'
      exact refused (ColumnSchema.carries_of_encodeOperand encoded).1
  · intro sound
    by_contra refused
    refine sound (.noField fun f member named => ?_)
    cases present : b.schema.column? f.column with
    | none => exact sound (.noColumn member named present)
    | some c =>
      refine sound (.noOperand member named present fun taken => refused ?_)
      obtain ⟨datum, encoded⟩ := ColumnSchema.exists_encodeOperand taken
      exact ⟨_, mutation_eq_ok_iff.mpr ⟨f, member, c, datum, named, present, encoded, rfl⟩⟩

end Binding

/-! ## Operations -/

namespace Selection

variable {s : Store} {c : Selection} {type : RecordType} {changes : List FieldMutation}
  {b : Binding} {mutations : List Mutation} {clauses : List (List Clause)}

theorem tableFor_of_registered (registered : s.registry.tableFor? type = some c.table) :
    c.tableFor s type = .ok c.table :=
  Except.bind_eq_ok_iff.mpr ⟨c.table, Store.tableFor_eq_ok_iff.mpr registered, if_pos rfl⟩

theorem mutate_of_clauses (registered : s.registry.tableFor? type = some c.table)
    (bound : s.binding c.table = .ok b) (made : changes.mapM b.mutation = .ok mutations)
    (asked : c.clauses s = .ok clauses) : c.mutate s type changes = .ok (clauses.map fun clauses =>
      { kind := .mutate, table := c.table, mutations, clauses }) := by
  have named : (liftM (c.tableFor s type) : Except ReplicaFault String) = .ok c.table :=
    Except.mapError_eq_ok_iff.mpr (tableFor_of_registered registered)
  refine Except.bind_eq_ok_iff.mpr ⟨c.table, named, Except.bind_eq_ok_iff.mpr ⟨b, ?_,
    Except.bind_eq_ok_iff.mpr ⟨mutations, Except.mapError_eq_ok_iff.mpr made,
      operations_of_clauses asked _⟩⟩⟩
  exact Except.mapError_eq_ok_iff.mpr (Except.mapError_eq_ok_iff.mpr bound)

section Serving

variable {schema : Schema} {registry : Registry}

/-- Selected rows can be mutated if they can be named to the server, through a record type of their
table, and nothing is wrong with the changes. -/
theorem exists_mutate_iff (serves : s.Serves schema registry)
    (bound : registry.binding? schema c.table = some c.binding) :
    (∃ ops, c.mutate s type changes = .ok ops) ↔ registry.tableFor? type = some c.table
      ∧ (∀ change ∈ changes, ¬ change.Faulty type c.binding.schema)
      ∧ ∃ clauses, c.clauses s = .ok clauses := by
  have bound' : s.binding c.table = .ok c.binding := (serves.bindings c.table c.binding).mpr bound
  constructor
  · rintro ⟨ops, made⟩
    obtain ⟨registered, b, mutations, bound'', written, made⟩ := mutate_eq_ok made
    cases bound'.symm.trans bound''
    rw [serves.sameRegistry] at registered
    obtain ⟨clauses, asked, -⟩ := operations_eq_ok_iff.mp made
    refine ⟨registered, fun change member => ?_, clauses, asked⟩
    rw [← type_of_registered bound registered]
    exact Binding.exists_mutation_iff.mp (Except.exists_image_of_mapM written member)
  · rintro ⟨registered, sound, clauses, asked⟩
    obtain ⟨mutations, written⟩ : ∃ mutations, changes.mapM c.binding.mutation = .ok mutations :=
      Except.exists_mapM fun change member => Binding.exists_mutation_iff.mpr <| by
        rw [type_of_registered bound registered]
        exact sound change member
    rw [← serves.sameRegistry] at registered
    exact ⟨_, mutate_of_clauses registered bound' written asked⟩

end Serving

/-- Why the rows of a selection, if there is one, cannot be mutated. -/
inductive Held.RefusesMutation (schema : Schema) (registry : Registry) (s : Store)
    (type : RecordType) (changes : List FieldMutation) (held : Held) : Prop
  | noSelection {fault : ReplicaFault} (failed : held = .error fault)
  | noClauses {c : Selection} {fault : ReplicaFault} (made : held = .ok c)
    (failed : c.clauses s = .error fault)
  | otherTable {c : Selection} (made : held = .ok c)
    (other : registry.tableFor? type ≠ some c.table)
  | faulty {c : Selection} {t : TableSchema} {change : FieldMutation} (made : held = .ok c)
    (present : schema.table? c.table = some t) (member : change ∈ changes)
    (faulty : change.Faulty type t)

theorem refusesMutation_iff {schema : Schema} {registry : Registry} {t : TableSchema}
    (present : schema.table? c.table = some t) :
    Held.RefusesMutation schema registry s type changes (.ok c) ↔
      ¬ (registry.tableFor? type = some c.table ∧ (∀ change ∈ changes, ¬ change.Faulty type t)
        ∧ ∃ clauses, c.clauses s = .ok clauses) := by
  constructor
  · rintro refuses ⟨registered, sound, clauses, asked⟩
    cases refuses with
    | noSelection failed => cases failed
    | noClauses made failed =>
      cases made
      cases asked.symm.trans failed
    | otherTable made other =>
      cases made
      exact other registered
    | faulty made present' member faulty =>
      cases made
      cases present.symm.trans present'
      exact sound _ member faulty
  · intro refused
    by_contra noReason
    refine refused ⟨?_, fun change member faulty => ?_, ?_⟩
    · by_contra other
      exact noReason (.otherTable rfl other)
    · exact noReason (.faulty rfl present member faulty)
    · cases asked : c.clauses s with
      | error fault => exact absurd (.noClauses rfl asked) noReason
      | ok clauses => exact ⟨clauses, rfl⟩

end Selection

/-- Whatever has been reported to a replica, and whenever a selection has been made: the operations
that mutate the selected rows, one for each list of clauses, all carry the same mutations, one for
each change of a field, in order; each mutation carries the value that was asked for in atoms of the
types that the column declares. There are no operations exactly if there is no selection, its rows
cannot be named to the server, the record type of the call is not the one of its table, or one of
the changes is to a field that is not there or that stands for no column, or is by a value that the
column does not take. -/
theorem Replica.mutations_faithful {schema : Schema} {registry : Registry} {capacity : Nat}
    {start : Replica} (created : Replica.new schema registry capacity = .ok start)
    (earlier reports : List Changes) {held : Selection.Held}
    (asked : held.AskedOf (start.populateAll earlier).1.store) (type : RecordType)
    (changes : List FieldMutation) :
    let s := (start.populateAll reports).1.store
    let outcome := held.use >>= fun c => c.mutate s type changes
    (∀ ops, outcome = .ok ops → ∃ c t clauses mutations, held = .ok c
        ∧ registry.tableFor? type = some c.table ∧ schema.table? c.table = some t
        ∧ c.clauses s = .ok clauses
        ∧ List.Forall₂ (fun change m => change.ComesTo type t m) changes mutations
        ∧ ops = clauses.map fun clauses =>
          { kind := .mutate, table := c.table, mutations, clauses })
      ∧ ((∃ fault, outcome = .error fault) ↔
        held.RefusesMutation schema registry s type changes) := by
  intro s outcome
  have serves : s.Serves schema registry := serves created reports
  cases held with
  | error fault =>
    exact ⟨nofun, iff_of_true ⟨.condition fault, rfl⟩ (.noSelection rfl)⟩
  | ok c =>
    have bound := (asked.madeOf rfl).binding?_eq_some (Replica.serves created earlier)
    have present := (Registry.binding?_eq_some_iff.mp bound).2
    have mutated : outcome = c.mutate s type changes := rfl
    constructor
    · intro ops made
      rw [mutated] at made
      obtain ⟨registered, b, mutations, bound', written, made⟩ := Selection.mutate_eq_ok made
      rw [serves.sameRegistry] at registered
      cases bound.symm.trans ((serves.bindings c.table b).mp bound')
      obtain ⟨clauses, named, rfl⟩ := Selection.operations_eq_ok_iff.mp made
      refine ⟨c, c.binding.schema, clauses, mutations, rfl, registered, present, named, ?_, rfl⟩
      rw [← Selection.type_of_registered bound registered]
      exact (Except.mapM_eq_ok_iff.mp written).imp fun _ _ => Binding.comesTo_of_mutation
    · rw [Except.exists_error_iff, mutated, Selection.exists_mutate_iff serves bound,
        Selection.refusesMutation_iff present]

/-! ## An example -/

namespace Sample

/-- Records of switches with their ports and the numbers at their rates. -/
def meter : Layout where
  type := {
    name := "Meter"
    table := "Switch"
    fields := [⟨"uuid", "_uuid", .scalar .string⟩, ⟨"outlets", "ports", .list .string⟩,
      ⟨"rates", "rates", .map .real .integer⟩] }
  hasTable := by decide
  columnsDistinct := by decide
  hasIdentity := by decide

/-- The registry of these records. -/
def meters : Registry := (Registry.empty "Sample").insert meter

/-- A switch of which just the name of its row is known. -/
def namedMeter (id : String) : Record := ⟨meter.type, (id, [], .empty, ())⟩

/-- The insertion of two ports, one of which the database has already, and the deletion of whatever
there is at a rate. -/
def rewiring : List FieldMutation := [
  ⟨"outlets", .insert, .set [.string "2f77b348-9768-4866-b761-89d5177ecda0", .string "new_port"]⟩,
  ⟨"rates", .delete, .set [.real (.ofInt 10)]⟩]

/-- Calculation with the references to ports. -/
def addition : FieldMutation := ⟨"outlets", .add, .scalar (.integer 1)⟩

theorem addition_faulty : addition.Faulty meter.type switches := by
  have member : (⟨"outlets", "ports", .list .string⟩ : Field) ∈ meter.type.fields := by decide
  refine .noOperand member rfl (rfl : switches.column? "ports" = some ports) fun taken => ?_
  cases taken with
  | whole typed ofType =>
    cases typed
    cases ofType
  | element set arithmetic taken =>
    obtain ⟨key, keyed, typed⟩ := taken
    cases keyed
    cases typed

end Sample

/-- A port that the database has is referred to by its identifier and the other one by its name, the
rate is named by a real, and nothing is added to a reference. -/
theorem Replica.mutations_faithful_meter :
    ∃ start c o, Replica.new Sample.network Sample.meters 4 = .ok start
      ∧ Selection.ofRecord start.store (Sample.namedMeter "s") [] = .ok c
      ∧ c.mutate start.store Sample.meter.type Sample.rewiring = .ok [o]
      ∧ o.mutations = [
        ⟨"ports", .insert,
          .set [.uuid "2f77b348-9768-4866-b761-89d5177ecda0", .namedUuid "new_port"]⟩,
        ⟨"rates", .delete, .set [.real (.ofInt 10)]⟩]
      ∧ List.Forall₂ (fun change m => change.ComesTo Sample.meter.type Sample.switches m)
        Sample.rewiring o.mutations
      ∧ ∃ fault, c.mutate start.store Sample.meter.type (Sample.addition :: Sample.rewiring) =
        .error fault := by
  obtain ⟨start, c, o, created, made, mutated⟩ :
      ∃ start c o, Replica.new Sample.network Sample.meters 4 = .ok start
        ∧ Selection.ofRecord start.store (Sample.namedMeter "s") [] = .ok c
        ∧ c.mutate start.store Sample.meter.type Sample.rewiring = .ok [o] :=
    ⟨_, _, _, rfl, rfl, rfl⟩
  have asked : Selection.Held.AskedOf start.store (.ok c) := made ▸ .record _ _
  obtain ⟨faithful, -⟩ :=
    mutations_faithful created [] [] asked Sample.meter.type Sample.rewiring
  obtain ⟨-, refused⟩ :=
    mutations_faithful created [] [] asked Sample.meter.type (Sample.addition :: Sample.rewiring)
  obtain ⟨c', t, clauses, mutations, same, -, present, -, each, copies⟩ := faithful [o] mutated
  cases same
  have sameTable : t = Sample.switches := by
    cases created
    cases made
    cases present
    rfl
  subst sameTable
  obtain ⟨clause, -, copy⟩ := List.map_eq_singleton_iff.mp copies.symm
  have carried : o.mutations = mutations := by rw [← copy]
  have refuses := refused.mpr (.faulty rfl present List.mem_cons_self Sample.addition_faulty)
  refine ⟨start, c, o, created, made, mutated, ?_, carried ▸ each, refuses⟩
  cases created
  cases made
  cases mutated
  rfl

end TableReplica
