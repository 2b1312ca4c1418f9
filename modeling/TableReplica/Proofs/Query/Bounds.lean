import TableReplica.Proofs.Query.Agreement
import TableReplica.Proofs.Query.Operations
import TableReplica.Proofs.Record.Encoding
import TableReplica.Proofs.Schema.Operations

/-!
# Bounds of edits

No edit reaches further than its selection. Whatever records, fields and mutations an operation is
made of, it is of the kind that has been asked for, names columns of its own table only and passes
the check against the schema, and unless it inserts a row, it has clauses, so that it never concerns
the whole table (`Replica.edits_bounded`).
-/

namespace TableReplica

/-! ## Clauses -/

/-- Clauses that select rows of a table: there is one at least, and each compares the identifier or
a column that the table declares. -/
structure TableSchema.Bounds (t : TableSchema) (clauses : List Clause) : Prop where
  nonempty : clauses ≠ []
  columns : ∀ k ∈ clauses,
    k.column = Identifier.idColumn ∨ ∃ c, t.column? k.column = some c

namespace Binding

variable {b : Binding} {r : Record} {position : Nat} {column : String} {names : List String}
  {k : Clause} {ks : List Clause}

/-- A clause for a value of a record compares the column that the field stands for. -/
theorem column_of_equality (mapped : b.layout.fieldOf? column = some position)
    (written : b.equality r position column = .ok k) :
    k.column = Identifier.idColumn ∨ ∃ c, b.schema.column? k.column = some c := by
  rw [equality] at written
  split at written
  next isIdentity =>
    cases written
    rw [isIdentity] at mapped
    exact .inl (Layout.fieldOf?_injective mapped b.layout.fieldOf?_idColumn)
  next =>
    split at written
    next => cases written
    next c present =>
      obtain ⟨datum, -, made⟩ := Except.bind_eq_ok_iff.mp written
      cases made
      exact .inr ⟨c, present⟩

/-- The clauses for a record select rows of the table, whatever the record is and whichever fields
are given by name. -/
theorem bounds_of_clauses (written : b.clauses r names = .ok ks) : b.schema.Bounds ks := by
  by_cases given : names = []
  · subst given
    by_cases unidentified : b.identity r = ""
    · rw [clauses_of_unidentified unidentified] at written
      split at written
      -- An index has a column at least, and a field for each of its columns.
      next group found =>
        have listed := List.mem_of_find?_eq_some found
        have filled : (!group.isEmpty) = true := (List.mem_filter.mp listed).2
        refine ⟨Except.ne_nil_of_mapM written (by simpa using filled), fun k member => ?_⟩
        obtain ⟨e, inGroup, asked⟩ := Except.exists_of_mem_mapM written member
        exact column_of_equality (fieldOf?_of_mem_indexGroups listed inGroup) asked
      next => cases written
    · rw [clauses_of_identified unidentified] at written
      cases written
      exact ⟨List.cons_ne_nil _ _, fun k member => .inl (List.mem_singleton.mp member ▸ rfl)⟩
  · rw [clauses_of_named given] at written
    obtain ⟨positions, named, written⟩ := Except.bind_eq_ok_iff.mp written
    have nonempty : positions ≠ [] := Except.ne_nil_of_mapM named given
    refine ⟨Except.ne_nil_of_mapM written nonempty, fun k member => ?_⟩
    obtain ⟨position, listed, asked⟩ := Except.exists_of_mem_mapM written member
    obtain ⟨f, there⟩ := exists_field_of_positionsOf named listed
    rw [there] at asked
    exact column_of_equality (Layout.fieldOf?_of_getElem? there) asked

end Binding

/-- And so do the clauses of a selection, whatever the replica holds. -/
theorem Selection.bounds_of_clauses {c : Selection} {s : Store} {written : List (List Clause)}
    (made : c.clauses s = .ok written) {ks : List Clause} (member : ks ∈ written) :
    c.binding.schema.Bounds ks := by
  rw [clauses] at made
  split at made
  next r names _ =>
    obtain ⟨ks', asked, made⟩ := Except.bind_eq_ok_iff.mp made
    cases made
    rw [List.mem_singleton.mp member]
    exact Binding.bounds_of_clauses (Except.mapError_eq_ok_iff.mp asked)
  next =>
    split at made
    next => cases made
    next t _ =>
      obtain ⟨selected, -, made⟩ := Except.bind_eq_ok_iff.mp made
      obtain ⟨r, -, asked⟩ := Except.exists_of_mem_mapM made member
      exact Binding.bounds_of_clauses (Except.mapError_eq_ok_iff.mp asked)

/-! ## Rows and mutations -/

/-- The field with a given name is found, since there are no others with it. -/
theorem Layout.field_named_eq_some_iff {l : Layout} {name : String} {f : Field} :
    ((l.fieldNamed? name).bind fun position => l.fields[position]?) = some f ↔
      f ∈ l.type.fields ∧ f.name = name := by
  rw [Option.bind_eq_some_iff]
  constructor
  · rintro ⟨position, found, there⟩
    obtain ⟨f', there', named⟩ := (List.findIdx?_key_eq_some_iff l.type.namesDistinct).mp found
    cases there.symm.trans there'
    exact ⟨List.mem_of_getElem? there, named⟩
  · rintro ⟨member, named⟩
    obtain ⟨position, there⟩ := List.getElem?_of_mem member
    exact ⟨position,
      (List.findIdx?_key_eq_some_iff l.type.namesDistinct).mpr ⟨f, there, named⟩, there⟩

namespace Binding

variable {b : Binding} {r : Record} {row : WireRow} {names : List String} {column : String}

/-- The row of a record has declared columns only. -/
theorem column?_of_mem_encode (encoded : b.encode r = .ok row) (listed : column ∈ row.keys) :
    ∃ c, b.schema.column? column = some c := by
  obtain ⟨datum, given⟩ := (SortedMap.mem_keys_iff row column).mp listed
  obtain ⟨-, c, -, -, -, present, -⟩ := encoded_of_get? encoded given
  exact ⟨c, present⟩

/-- The row of an update has declared columns only, all of which can be changed. -/
theorem column?_of_mem_changeableRow (made : b.changeableRow r names = .ok row)
    (listed : column ∈ row.keys) : ∃ c, b.schema.column? column = some c ∧ c.mutable = true := by
  have filtered : ∃ full : WireRow,
      row = full.filter fun column _ => (b.schema.column? column).any ColumnSchema.mutable := by
    rw [changeableRow] at made
    split at made
    all_goals
      obtain ⟨full, -, made⟩ := Except.bind_eq_ok_iff.mp made
      cases made
      exact ⟨full, rfl⟩
  obtain ⟨full, rfl⟩ := filtered
  obtain ⟨datum, given⟩ := (SortedMap.mem_keys_iff _ column).mp listed
  rw [SortedMap.get?_filter, Option.filter_eq_some_iff] at given
  exact (Option.any_eq_true _ _).mp given.2

theorem columnOf_eq_ok_iff {name : String} {c : ColumnSchema} :
    b.columnOf name = .ok (column, c) ↔ ∃ f ∈ b.layout.type.fields, f.name = name
      ∧ f.column = column ∧ b.schema.column? column = some c := by
  constructor
  · intro known
    rw [columnOf] at known
    split at known
    next => cases known
    next f found =>
      obtain ⟨member, named⟩ := Layout.field_named_eq_some_iff.mp found
      split at known
      next => cases known
      next present =>
        cases known
        exact ⟨f, member, named, rfl, present⟩
  · rintro ⟨f, member, named, rfl, present⟩
    rw [columnOf, Layout.field_named_eq_some_iff.mpr ⟨member, named⟩]
    dsimp only
    rw [present]

theorem column?_of_columnOf {name : String} {c : ColumnSchema}
    (found : b.columnOf name = .ok (column, c)) : b.schema.column? column = some c := by
  obtain ⟨f, -, -, -, present⟩ := columnOf_eq_ok_iff.mp found
  exact present

/-- A mutation changes a declared column. -/
theorem column?_of_mutation {change : FieldMutation} {m : Mutation}
    (made : b.mutation change = .ok m) : ∃ c, b.schema.column? m.column = some c := by
  obtain ⟨⟨column, c⟩, found, made⟩ := Except.bind_eq_ok_iff.mp made
  obtain ⟨datum, -, made⟩ := Except.bind_eq_ok_iff.mp made
  cases made
  exact ⟨c, column?_of_columnOf found⟩

end Binding

/-! ## Operations -/

/-- An operation that names declared columns of a table only, in its row and in its mutations. It
has no other rows and selects no columns. -/
structure Operation.Fits (o : Operation) (t : TableSchema) : Prop where
  row : ∀ column ∈ o.row.keys, ∃ c, t.column? column = some c
  mutations : ∀ m ∈ o.mutations, ∃ c, t.column? m.column = some c
  rows : o.rows = []
  selected : o.columns = []

theorem Operation.Fits.offers {o : Operation} {t : TableSchema} {schema : Schema} (fits : o.Fits t)
    (present : schema.table? o.table = some t) : schema.Offers o.table o.namedColumns := by
  refine ⟨t, present, fun column named => ?_⟩
  rw [Operation.namedColumns, fits.rows, fits.selected, List.flatMap_nil, List.append_nil,
    List.append_nil] at named
  exact .inr (.inr (fits.row column named))

/-- Operations that fit their tables pass the check. -/
theorem Schema.checkOperations_of_fits {schema : Schema} {ops : List Operation}
    (fit : ∀ o ∈ ops, ∃ t, schema.table? o.table = some t ∧ o.Fits t) :
    schema.checkOperations ops = .ok () := by
  rcases schema.checkOperations_cases ops with ⟨passed, -⟩ | ⟨before, o, after, _, rfl, -, lacks, -⟩
  · exact passed
  · obtain ⟨t, present, fits⟩ := fit o (by simp)
    exact absurd (fits.offers present) lacks.not_offers

/-- What a record is inserted by is an insert, which needs no clauses. -/
theorem Store.insert_of_create {s : Store} {r : Record} {o : Operation}
    (made : s.create r = .ok o) : o.kind = .insert ∧ o.clauses = [] := by
  obtain ⟨_, _, _, -, -, -, rfl⟩ := Store.create_eq_ok_iff.mp made
  exact ⟨rfl, rfl⟩

/-- The operation that inserts a record fits the table that its type is registered for. -/
theorem Store.Serves.fits_of_create {schema : Schema} {registry : Registry} {s : Store}
    (serves : s.Serves schema registry) {r : Record} {o : Operation} (made : s.create r = .ok o) :
    ∃ t, registry.tableFor? r.type = some o.table ∧ schema.table? o.table = some t ∧ o.Fits t := by
  obtain ⟨table, b, row, registered, bound, encoded, rfl⟩ := Store.create_eq_ok_iff.mp made
  have present := (Registry.binding?_eq_some_iff.mp ((serves.bindings table b).mp bound)).2
  rw [serves.sameRegistry] at registered
  refine ⟨b.schema, registered, present, fun column listed => ?_, by rintro _ ⟨⟩, rfl, rfl⟩
  exact Binding.column?_of_mem_encode encoded listed

namespace Selection

variable {schema : Schema} {registry : Registry} {s : Store} {c : Selection}
  {kind : OperationKind} {ops : List Operation}

/-- A selection that has been made of rows of a store, by a reference record or by a predicate. -/
inductive MadeOf (s : Store) (c : Selection) : Prop
  | record (r : Record) (names : List String) (made : ofRecord s r names = .ok c)
  | predicate (type : RecordType) (test : Record → Bool) (made : ofPredicate s type test = .ok c)

/-- What somebody holds who has set out to make a selection of rows of a store, be it a selection or
the reason why there is none. -/
inductive Held.AskedOf (s : Store) : Held → Prop
  | record (r : Record) (names : List String) : AskedOf s (ofRecord s r names)
  | predicate (type : RecordType) (test : Record → Bool) : AskedOf s (ofPredicate s type test)

theorem Held.AskedOf.madeOf {held : Held} (asked : held.AskedOf s) (made : held = .ok c) :
    c.MadeOf s := by
  cases asked with
  | record r names => exact .record r names made
  | predicate type test => exact .predicate type test made

/-- The operations of an edit of the selected rows, which is of some kind. -/
inductive Edits (c : Selection) (s : Store) : OperationKind → List Operation → Prop
  | delete {ops : List Operation} (made : c.delete s = .ok ops) : Edits c s .delete ops
  | update {ops : List Operation} (r : Record) (names : List String)
    (made : c.update s r names = .ok ops) : Edits c s .update ops
  | mutate {ops : List Operation} (type : RecordType) (changes : List FieldMutation)
    (made : c.mutate s type changes = .ok ops) : Edits c s .mutate ops

/-- A selection bears the binding of its table. -/
theorem MadeOf.binding?_eq_some (made : c.MadeOf s) (serves : s.Serves schema registry) :
    registry.binding? schema c.table = some c.binding := by
  have found : ∃ type, s.bindingFor type = .ok c.binding := by
    cases made with
    | record r names made => exact ⟨r.type, (ofRecord_eq_ok made).1⟩
    | predicate type test made => exact ⟨type, (ofPredicate_eq_ok_iff.mp made).1⟩
  obtain ⟨type, found⟩ := found
  obtain ⟨table, -, bound⟩ := Store.bindingFor_eq_ok_iff.mp found
  have bound := (serves.bindings table c.binding).mp bound
  obtain rfl : c.table = table := Registry.table_of_binding? bound
  exact bound

theorem type_of_registered {type : RecordType}
    (bound : registry.binding? schema c.table = some c.binding)
    (registered : registry.tableFor? type = some c.table) : c.binding.layout.type = type := by
  obtain ⟨l, laid, rfl⟩ := Registry.exists_layout_of_tableFor? registered
  cases laid.symm.trans (Registry.binding?_eq_some_iff.mp bound).1
  rfl

/-- An edit is made of copies of one operation of its kind on the table of the selection, which
names declared columns only and writes none that cannot be changed. -/
theorem Edits.exists_operation (edits : c.Edits s kind ops)
    (bound : ∀ b, s.binding c.table = .ok b → b.schema = c.binding.schema) :
    ∃ o, c.operations s o = .ok ops ∧ o.kind = kind ∧ o.table = c.table
      ∧ o.Fits c.binding.schema
      ∧ ∀ column ∈ o.row.keys, ∃ col, c.binding.schema.column? column = some col
        ∧ col.mutable = true := by
  cases edits with
  | delete made =>
    exact ⟨_, made, rfl, rfl, ⟨by rintro _ ⟨⟩, by rintro _ ⟨⟩, rfl, rfl⟩, by rintro _ ⟨⟩⟩
  | update r names made =>
    obtain ⟨-, b, row, bound', written, made⟩ := update_eq_ok made
    have changeable : ∀ column ∈ row.keys, ∃ col, c.binding.schema.column? column = some col
        ∧ col.mutable = true := by
      rw [← bound b bound']
      exact fun column listed => Binding.column?_of_mem_changeableRow written listed
    refine ⟨_, made, rfl, rfl, ⟨fun column listed => ?_, by rintro _ ⟨⟩, rfl, rfl⟩, changeable⟩
    exact (changeable column listed).imp fun _ both => both.1
  | mutate type changes made =>
    obtain ⟨-, b, mutations, bound', written, made⟩ := mutate_eq_ok made
    refine ⟨_, made, rfl, rfl, ⟨by rintro _ ⟨⟩, fun m listed => ?_, rfl, rfl⟩, by rintro _ ⟨⟩⟩
    obtain ⟨change, -, image⟩ := Except.exists_of_mem_mapM written listed
    rw [← bound b bound']
    exact Binding.column?_of_mutation image

/-- So each operation of an edit is bounded. -/
theorem Edits.bounded (edits : c.Edits s kind ops)
    (bound : ∀ b, s.binding c.table = .ok b → b.schema = c.binding.schema) {o : Operation}
    (member : o ∈ ops) : o.kind = kind ∧ o.table = c.table ∧ o.Fits c.binding.schema
      ∧ c.binding.schema.Bounds o.clauses
      ∧ ∀ column ∈ o.row.keys, ∃ col, c.binding.schema.column? column = some col
        ∧ col.mutable = true := by
  obtain ⟨o', copies, ownKind, ownTable, fits, changeable⟩ := edits.exists_operation bound
  obtain ⟨written, asked, rfl⟩ := operations_eq_ok_iff.mp copies
  obtain ⟨clauses, listed, rfl⟩ := List.mem_map.mp member
  exact ⟨ownKind, ownTable, ⟨fits.row, fits.mutations, fits.rows, fits.selected⟩,
    bounds_of_clauses asked listed, changeable⟩

end Selection

/-- Whatever has been reported to a replica, the operation that a record is inserted by is an insert
into the table that its type is registered for, has no clauses, names columns that the table
declares only, and passes the check against the schema. Whenever a selection has been made, every
operation of what is to delete, update or mutate its rows is a delete, an update or a mutate, as has
been asked for, on the table of the selection, to which the record type of the call belongs. It
names columns that the table declares only and passes the check; it writes to no column that cannot
be changed; and it has clauses, which compare the identifier and columns that the table declares and
nothing else. -/
theorem Replica.edits_bounded {schema : Schema} {registry : Registry} {capacity : Nat}
    {start : Replica} (created : Replica.new schema registry capacity = .ok start)
    (reports : List Changes) :
    let s := (start.populateAll reports).1.store
    (∀ r o, s.create r = .ok o → o.kind = .insert ∧ o.clauses = []
        ∧ ∃ t, registry.tableFor? r.type = some o.table
          ∧ schema.table? o.table = some t ∧ o.Fits t ∧ schema.checkOperations [o] = .ok ())
      ∧ ∀ earlier c, Selection.MadeOf (start.populateAll earlier).1.store c →
        ∃ t, schema.table? c.table = some t
          ∧ (∀ kind ops, c.Edits s kind ops → schema.checkOperations ops = .ok () ∧ ∀ o ∈ ops,
            o.kind = kind ∧ o.table = c.table ∧ o.Fits t ∧ t.Bounds o.clauses
              ∧ ∀ column ∈ o.row.keys, ∃ col, t.column? column = some col ∧ col.mutable = true)
          ∧ (∀ r names ops, c.update s r names = .ok ops →
            registry.tableFor? r.type = some c.table)
          ∧ ∀ type changes ops, c.mutate s type changes = .ok ops →
            registry.tableFor? type = some c.table := by
  intro s
  have serves : s.Serves schema registry := serves created reports
  constructor
  · intro r o made
    obtain ⟨isInsert, unrestricted⟩ := Store.insert_of_create made
    obtain ⟨t, registered, present, fits⟩ := serves.fits_of_create made
    refine ⟨isInsert, unrestricted, t, registered, present, fits,
      Schema.checkOperations_of_fits ?_⟩
    exact List.forall_mem_singleton.mpr ⟨t, present, fits⟩
  · intro earlier c made
    have bound := made.binding?_eq_some (Replica.serves created earlier)
    have present := (Registry.binding?_eq_some_iff.mp bound).2
    have sameSchema : ∀ b, s.binding c.table = .ok b → b.schema = c.binding.schema := by
      intro b bound'
      cases bound.symm.trans ((serves.bindings c.table b).mp bound')
      rfl
    refine ⟨c.binding.schema, present, fun kind ops edits => ?_, ?_, ?_⟩
    · have each := fun o (member : o ∈ ops) => edits.bounded sameSchema member
      refine ⟨Schema.checkOperations_of_fits fun o member => ?_, each⟩
      obtain ⟨-, ownTable, fits, -⟩ := each o member
      exact ⟨c.binding.schema, ownTable ▸ present, fits⟩
    · intro r names ops updated
      exact serves.sameRegistry ▸ (Selection.update_eq_ok updated).1
    · intro type changes ops mutated
      exact serves.sameRegistry ▸ (Selection.mutate_eq_ok mutated).1

/-- A bridge is put in by an insert. Writing the kind of datapath to the bridges of one name is done
by an update that concerns these alone, although the record that is written has neither a name nor
an identifier. -/
theorem Replica.edits_bounded_bridges :
    ∃ start c insert o, Replica.new Sample.schema Sample.registry 4 = .ok start
      ∧ start.store.create (Sample.record "" "br0" "") = .ok insert
      ∧ insert.kind = .insert ∧ insert.clauses = []
      ∧ Sample.schema.checkOperations [insert] = .ok ()
      ∧ Selection.ofRecord start.store (Sample.record "" "br0" "") ["name"] = .ok c
      ∧ c.update start.store (Sample.record "" "" "system") [] = .ok [o]
      ∧ Sample.schema.checkOperations [o] = .ok ()
      ∧ o.kind = .update ∧ o.table = "Bridge" ∧ Sample.bridges.Bounds o.clauses := by
  obtain ⟨start, c, insert, o, created, inserted, made, updated⟩ :
      ∃ start c insert o, Replica.new Sample.schema Sample.registry 4 = .ok start
        ∧ start.store.create (Sample.record "" "br0" "") = .ok insert
        ∧ Selection.ofRecord start.store (Sample.record "" "br0" "") ["name"] = .ok c
        ∧ c.update start.store (Sample.record "" "" "system") [] = .ok [o] :=
    ⟨_, _, _, _, rfl, rfl, rfl, rfl⟩
  obtain ⟨insertions, selections⟩ := edits_bounded created []
  obtain ⟨isInsert, unrestricted, -, -, -, -, insertable⟩ := insertions _ insert inserted
  obtain ⟨t, present, edits, -⟩ := selections [] c (.record _ _ made)
  obtain ⟨checked, each⟩ := edits _ [o] (.update _ _ updated)
  obtain ⟨isUpdate, onTable, -, bounds, -⟩ := each o List.mem_cons_self
  refine ⟨start, c, insert, o, created, inserted, isInsert, unrestricted, insertable, made, updated,
    checked, isUpdate, ?_⟩
  cases created
  cases made
  cases present
  exact ⟨onTable, bounds⟩

end TableReplica
