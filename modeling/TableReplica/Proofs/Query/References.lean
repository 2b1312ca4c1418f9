import TableReplica.Proofs.Query.Agreement
import TableReplica.Proofs.Query.Insertion

/-!
# References to rows

The operation that inserts a record names the row by the identifier of the record, and whatever
refers to the row names it by the same text: the elements of columns for identifiers, wherever in a
value they stand (`ColumnSchema.at?_of_encode`), and the clause for the identifier of the record.
All of them are one and the same atom, which refers to the row that is inserted as long as the text
is not in itself the identifier of a row (`Replica.created_row_referred_to`).
-/

namespace TableReplica

/-! ## Places -/

/-- A place in the value of a column. A scalar has a single element. -/
inductive Place where
  | element (position : Nat)
  | key (position : Nat)
  | mapped (position : Nat)
deriving DecidableEq

/-- The scalar at a place of a value. -/
def Value.at? : Value → Place → Option Scalar
  | .scalar s, .element 0 => some s
  | .set elements, .element n => elements[n]?
  | .map entries, .key n => entries.toList[n]?.map Prod.fst
  | .map entries, .mapped n => entries.toList[n]?.map Prod.snd
  | _, _ => none

/-- The atom at a place of a datum. -/
def Datum.at? : Datum → Place → Option Atom
  | .atom a, .element 0 => some a
  | .set atoms, .element n => atoms[n]?
  | .map entries, .key n => entries[n]?.map Prod.fst
  | .map entries, .mapped n => entries[n]?.map Prod.snd
  | _, _ => none

/-- The atomic type of what a column holds at a place. -/
def ColumnSchema.typeAt (c : ColumnSchema) : Place → Except ConversionFault AtomicType
  | .element _ | .key _ => c.keyType
  | .mapped _ => c.mappedType

/-- A value is encoded place by place. -/
theorem ColumnSchema.at?_of_encode {c : ColumnSchema} {value : Value} {datum : Datum}
    (encoded : c.encode value = .ok datum) {place : Place} {type : AtomicType}
    (typed : c.typeAt place = .ok type) : datum.at? place = (value.at? place).map type.encode := by
  obtain ⟨_, key, -, -, keyed, shape⟩ := eq_of_encode encoded
  have ofKey : ∀ n, place = .element n ∨ place = .key n → key = type := by
    rintro n (rfl | rfl)
    · exact Except.ok.inj (keyed.symm.trans typed)
    · exact Except.ok.inj (keyed.symm.trans typed)
  cases value with
  | scalar s =>
    subst shape
    match place with
    | .element 0 => exact congrArg (fun t : AtomicType => some (t.encode s)) (ofKey 0 (.inl rfl))
    | .element (_ + 1) | .key _ | .mapped _ => rfl
  | set elements =>
    subst shape
    match place with
    | .element n =>
      rw [← ofKey n (.inl rfl)]
      exact List.getElem?_map
    | .key _ | .mapped _ => rfl
  | map entries =>
    obtain ⟨mapped, known, rfl⟩ := shape
    match place with
    | .element _ => rfl
    | .key n =>
      rw [← ofKey n (.inr rfl), Datum.at?, Value.at?, List.getElem?_map, Option.map_map,
        Option.map_map]
      rfl
    | .mapped n =>
      obtain rfl : mapped = type := Except.ok.inj (known.symm.trans typed)
      rw [Datum.at?, Value.at?, List.getElem?_map, Option.map_map, Option.map_map]
      rfl

/-! ## Created rows -/

/-- What inserts a record of a type that is bound to a table. -/
theorem Store.create_eq_ok_iff_encode {s : Store} {r : Record} {table : String} {b : Binding}
    (registered : s.registry.tableFor? r.type = some table) (bound : s.binding table = .ok b)
    {o : Operation} : s.create r = .ok o ↔ ∃ row, b.encode r = .ok row
      ∧ o = { kind := .insert, table, row, uuidName := b.identity r } := by
  rw [create_eq_ok_iff]
  constructor
  · rintro ⟨table', b', row, registered', bound', encoded, made⟩
    cases registered.symm.trans registered'
    cases bound.symm.trans bound'
    exact ⟨row, encoded, made⟩
  · rintro ⟨row, encoded, made⟩
    exact ⟨table, b, row, registered, bound, encoded, made⟩

/-- The clause for a record with an identifier refers to the row by it. -/
theorem Selection.clauses_of_identified {s : Store} {r : Record} {table : String} {b : Binding}
    (registered : s.registry.tableFor? r.type = some table) (bound : s.binding table = .ok b)
    (identified : b.identity r ≠ "") : ∃ c, Selection.ofRecord s r [] = .ok c
      ∧ c.clauses s = .ok [[⟨"_uuid", .equal, .atom (Atom.reference (b.identity r))⟩]] := by
  refine ⟨⟨b, .reference r []⟩, ?_, ?_⟩
  · rw [ofRecord, Store.bindingFor_eq_ok_iff.mpr ⟨table, registered, bound⟩]
    rfl
  · rw [clauses]
    change (b.clauses r []).mapError ReplicaFault.core >>= _ = _
    rw [Binding.clauses_of_identified identified]
    rfl

namespace Replica

variable {schema : Schema} {registry : Registry}

/-- Whatever a replica holds, a record of a registered type is inserted by an operation if its
fields can be encoded. If the record has an identifier, the operation names the row by it, and
whatever is encoded to refer to the row, at any place of a value of any column at which there are
identifiers, or in the clause for the record, is the same atom: a reference to a row of the
transaction, unless the text is the identifier of a row of the database. -/
theorem created_row_referred_to {capacity : Nat} {start : Replica}
    (created : Replica.new schema registry capacity = .ok start) (reports : List Changes)
    {r : Record} {table : String} (registered : registry.tableFor? r.type = some table) :
    let s := (start.populateAll reports).1.store
    ∃ b, s.binding table = .ok b
      ∧ ((∃ o, s.create r = .ok o) ↔ ∃ row, b.encode r = .ok row)
      ∧ ∀ id, b.identity r = id → id ≠ "" →
        let referring := if Identifier.isValid id then Atom.uuid id else .namedUuid id
        (∀ o, s.create r = .ok o → o.uuidName = id)
          ∧ (∀ (c : ColumnSchema) value datum place, c.encode value = .ok datum →
            c.typeAt place = .ok .uuid → value.at? place = some (.string id) →
            datum.at? place = some referring)
          ∧ ∃ c, Selection.ofRecord s r [] = .ok c
            ∧ c.clauses s = .ok [[⟨"_uuid", .equal, .atom referring⟩]] := by
  intro s
  have serves : s.Serves schema registry := Replica.serves created reports
  obtain ⟨l, laid, -⟩ := Registry.exists_layout_of_tableFor? registered
  obtain ⟨t, followed, rfl⟩ := serves.exists_table (Replica.new_eq_ok_iff.mp created).1 laid
  have bound : s.binding table = .ok t.binding := Store.binding_eq_ok_iff.mpr ⟨t, followed, rfl⟩
  have registered' : s.registry.tableFor? r.type = some table := serves.sameRegistry ▸ registered
  have inserted : ∀ o, s.create r = .ok o ↔ ∃ row, t.binding.encode r = .ok row
      ∧ o = { kind := .insert, table, row, uuidName := t.binding.identity r } :=
    fun o => Store.create_eq_ok_iff_encode registered' bound
  refine ⟨t.binding, bound, ?_, ?_⟩
  · constructor
    · rintro ⟨o, made⟩
      obtain ⟨row, encoded, -⟩ := (inserted o).mp made
      exact ⟨row, encoded⟩
    · rintro ⟨row, encoded⟩
      exact ⟨_, (inserted _).mpr ⟨row, encoded, rfl⟩⟩
  · rintro id rfl identified referring
    refine ⟨fun o made => ?_, fun c value datum place encoded typed named => ?_,
      Selection.clauses_of_identified registered' bound identified⟩
    · obtain ⟨row, -, rfl⟩ := (inserted o).mp made
      rfl
    · rw [ColumnSchema.at?_of_encode encoded typed, named]
      rfl

end Replica

/-! ## An example -/

namespace Sample

/-- A switch with the identifier of a row that the database may hold. -/
def oldSwitch : Record :=
  ⟨uplink.type, ("2f77b348-9768-4866-b761-89d5177ecda1", "", "br0", none, "", ())⟩

/-- A value that refers to a row twice. -/
def twice (id : String) : Value := .set [.string id, .string "other", .string id]

end Sample

/-- The new switch is referred to by its name, in a set and in the clause for it. -/
theorem Replica.created_row_referred_to_switch :
    ∃ start, Replica.new Sample.network Sample.uplinks 4 = .ok start
      ∧ Sample.uplinks.tableFor? Sample.newSwitch.type = some "Switch"
      ∧ (∃ o, start.store.create Sample.newSwitch = .ok o ∧ o.uuidName = "new_switch")
      ∧ (∃ datum, Sample.ports.encode (Sample.twice "new_switch") = .ok datum
        ∧ datum.at? (.element 2) = some (.namedUuid "new_switch"))
      ∧ ∃ c, Selection.ofRecord start.store Sample.newSwitch [] = .ok c
        ∧ c.clauses start.store = .ok [[⟨"_uuid", .equal, .atom (.namedUuid "new_switch")⟩]] := by
  obtain ⟨start, created⟩ : ∃ start, Replica.new Sample.network Sample.uplinks 4 = .ok start :=
    ⟨_, rfl⟩
  have registered : Sample.uplinks.tableFor? Sample.newSwitch.type = some "Switch" := rfl
  obtain ⟨b, bound, creatable, names⟩ := created_row_referred_to created [] registered
  cases created
  cases bound
  obtain ⟨o, made⟩ := creatable.mpr ⟨_, rfl⟩
  obtain ⟨named, placed, clause⟩ := names "new_switch" rfl (by decide)
  exact ⟨_, rfl, registered, ⟨o, made, named o made⟩,
    ⟨_, rfl, placed Sample.ports (Sample.twice "new_switch") _ (.element 2) rfl rfl rfl⟩, clause⟩

/-- What is inserted under the identifier of a row of the database is not referred to by that
name: a reference is taken to be to the row of the database. -/
theorem Replica.created_row_mistaken :
    ∃ start, Replica.new Sample.network Sample.uplinks 4 = .ok start
      ∧ let id := "2f77b348-9768-4866-b761-89d5177ecda1"
        (∃ o, start.store.create Sample.oldSwitch = .ok o ∧ o.uuidName = id)
          ∧ (∃ datum, Sample.ports.encode (Sample.twice id) = .ok datum
            ∧ Sample.ports.typeAt (.element 0) = .ok .uuid
            ∧ (Sample.twice id).at? (.element 0) = some (.string id)
            ∧ datum.at? (.element 0) ≠ some (.namedUuid id))
          ∧ ∃ c, Selection.ofRecord start.store Sample.oldSwitch [] = .ok c
            ∧ c.clauses start.store ≠ .ok [[⟨"_uuid", .equal, .atom (.namedUuid id)⟩]] := by
  refine ⟨_, rfl, ⟨_, rfl, rfl⟩, ⟨_, rfl, rfl, rfl, ?_⟩, _, rfl, ?_⟩
  · intro named
    cases named
  · intro named
    cases named

end TableReplica
