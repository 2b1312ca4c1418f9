import TableReplica.Proofs.Record.Decoding
import TableReplica.Proofs.Replica.Creation
import TableReplica.Proofs.Value.RoundTrip
import TableReplica.Query.Selection

/-!
# Selections and their clauses

A selection by a reference record is tested against records of the replica and written down as
clauses for the server. A row that satisfies the clauses is always selected; a row that is selected
satisfies them in every case but one: an index that was passed over when the clauses were written
may still be what the test goes by (`Selection.selects_iff_satisfies_iff`).
-/

namespace TableReplica

namespace Binding

variable {b : Binding} {a r : Record}

/-! ## Single clauses -/

/-- Whether a record has, in the field that a column is decoded into, the value that a clause asks
for. -/
def Satisfies (b : Binding) (r : Record) (c : Clause) : Prop :=
  c.comparison = .equal ∧ ∃ position value,
    b.assignment? c.column c.datum = .ok (some (position, value)) ∧ r.get? position = some value

theorem satisfies_iff {c : Clause} {position : Nat} {value : Value} (equal : c.comparison = .equal)
    (read : b.assignment? c.column c.datum = .ok (some (position, value))) :
    b.Satisfies r c ↔ r.get? position = some value := by
  constructor
  · rintro ⟨-, position', value', asked, has⟩
    rw [read] at asked
    cases asked
    exact has
  · exact fun has => ⟨equal, position, value, read, has⟩

/-- Records of the table have a text as their identifier. -/
theorem get?_identity (typed : r.type = b.layout.type) :
    r.get? b.layout.identity = some (.scalar (.string (b.identity r))) := by
  obtain ⟨⟨name, column, type⟩, there, isIdentity⟩ := b.layout.exists_identity
  rw [Field.isIdentity, Bool.and_eq_true, beq_iff_eq, beq_iff_eq] at isIdentity
  obtain ⟨-, rfl⟩ := isIdentity
  obtain ⟨held, has⟩ := Layout.exists_held typed there
  rw [identity, has]
  rfl

theorem decodeIdentity_reference (id : String) :
    decodeIdentity (.atom (.reference id)) = .ok id := by
  rw [Atom.reference]
  split <;> rfl

theorem satisfies_identityClause (typed : r.type = b.layout.type) {column : String}
    (mapped : b.layout.fieldOf? column = some b.layout.identity) (id : String) :
    b.Satisfies r (identityClause column id) ↔ id = b.identity r := by
  have read : b.assignment? (identityClause column id).column (identityClause column id).datum =
      .ok (some (b.layout.identity, .scalar (.string id))) :=
    assignment?_identity mapped (decodeIdentity_reference id)
  rw [satisfies_iff rfl read, get?_identity typed, Option.some.injEq, Value.scalar.injEq,
    Scalar.string.injEq, eq_comm]

/-- The clause that asks for the value of a record in one column is satisfied by the records with
the same value. -/
theorem satisfies_of_equality (typed : a.type = b.layout.type) (typed' : r.type = b.layout.type)
    {column : String} {position : Nat} (mapped : b.layout.fieldOf? column = some position)
    {c : Clause} (written : b.equality a position column = .ok c) :
    b.Satisfies r c ↔ a.get? position = r.get? position := by
  rw [equality] at written
  split at written
  next isIdentity =>
    subst isIdentity
    cases written
    rw [get?_identity typed, get?_identity typed', Option.some.injEq, Value.scalar.injEq,
      Scalar.string.injEq]
    exact satisfies_identityClause typed' mapped (b.identity a)
  next notIdentity =>
    split at written
    next => cases written
    next col present =>
      obtain ⟨f, there, -⟩ := Layout.column_of_fieldOf? mapped
      obtain ⟨held, has⟩ := Layout.exists_held typed there
      obtain ⟨datum, encoded, done⟩ := Except.bind_eq_ok_iff.mp written
      cases done
      rw [has] at encoded ⊢
      have read := ColumnSchema.decode_of_encode (Except.mapError_eq_ok_iff.mp encoded)
      rw [satisfies_iff rfl (assignment?_column mapped notIdentity present read), eq_comm]
      rfl

/-! ## Clauses of a record -/

theorem agreeAt_iff {positions : List Nat} :
    agreeAt a r positions = true ↔ ∀ position ∈ positions, a.get? position = r.get? position := by
  simp only [agreeAt, List.all_eq_true, beq_iff_eq]

theorem exists_field_of_positionsOf {names : List String} {positions : List Nat}
    (named : b.positionsOf names = .ok positions) {position : Nat} (member : position ∈ positions) :
    ∃ f, b.layout.fields[position]? = some f := by
  obtain ⟨name, -, found⟩ := Except.exists_of_mem_mapM named member
  split at found
  next position' known =>
    cases found
    obtain ⟨bound, -, -⟩ := List.findIdx?_eq_some_iff_getElem.mp known
    exact ⟨_, List.getElem?_eq_getElem bound⟩
  next => cases found

theorem fieldOf?_of_mem_indexGroups {group : List (Nat × String)} (listed : group ∈ b.indexGroups)
    {e : Nat × String} (member : e ∈ group) : b.layout.fieldOf? e.2 = some e.1 := by
  obtain ⟨columns, -, mapped⟩ := List.mem_filterMap.mp (List.mem_filter.mp listed).1
  obtain ⟨column, -, image⟩ := Option.exists_of_mem_mapM mapped member
  obtain ⟨position, found, rfl⟩ := Option.map_eq_some_iff.mp image
  exact found

variable {names : List String} {cs : List Clause}

/-- If fields are given by name, there is a clause for each of them. -/
theorem clauses_of_named (given : names ≠ []) : b.clauses a names =
    b.positionsOf names >>= fun positions => positions.mapM fun position =>
      b.equality a position ((b.layout.fields[position]?.map Field.column).getD "") := by
  have given' : (!names.isEmpty) = true := by simpa using given
  rw [clauses, if_pos given']

/-- Otherwise the row of a record with an identifier is asked for by that alone. -/
theorem clauses_of_identified (identified : b.identity a ≠ "") :
    b.clauses a [] = .ok [identityClause Identifier.idColumn (b.identity a)] := by
  have unnamed : ¬ (!([] : List String).isEmpty) = true := by simp
  exact (if_neg unnamed).trans (if_pos identified)

/-- And that of a record without one by the columns of the first index that is of use. -/
theorem clauses_of_unidentified (unidentified : b.identity a = "") : b.clauses a [] =
    match b.indexGroups.find? (isUsable a) with
    | some group => group.mapM fun e => b.equality a e.1 e.2
    | none => .error (.noIndex b.table) := by
  have unnamed : ¬ (!([] : List String).isEmpty) = true := by simp
  exact (if_neg unnamed).trans (if_neg (not_not.mpr unidentified))

/-- In the same way the identifier of a record decides alone which records are of its row. -/
theorem sameRow_eq_of_identified (identified : b.identity a ≠ "") (r : Record) :
    b.sameRow a r [] = .ok (b.identity a == b.identity r) := by
  have unnamed : ¬ (!([] : List String).isEmpty) = true := by simp
  exact (if_neg unnamed).trans (if_pos identified)

/-- And without one, agreement on any index does. -/
theorem sameRow_eq_of_unidentified (unidentified : b.identity a = "") (r : Record) :
    b.sameRow a r [] =
      if b.indexGroups.isEmpty then .error (.noIndex b.table)
      else .ok (b.indexGroups.any fun group => agreeAt a r (group.map Prod.fst)) := by
  have unnamed : ¬ (!([] : List String).isEmpty) = true := by simp
  exact (if_neg unnamed).trans (if_neg (not_not.mpr unidentified))

/-- Clauses for fields that are given by name are satisfied by the records that agree in them. -/
theorem sameRow_of_named (typed : a.type = b.layout.type) (typed' : r.type = b.layout.type)
    (given : names ≠ []) (written : b.clauses a names = .ok cs) :
    ∃ verdict, b.sameRow a r names = .ok verdict
      ∧ (verdict = true ↔ ∀ c ∈ cs, b.Satisfies r c) := by
  have given' : (!names.isEmpty) = true := by simpa using given
  rw [clauses_of_named given] at written
  obtain ⟨positions, named, written⟩ := Except.bind_eq_ok_iff.mp written
  refine ⟨agreeAt a r positions, ?_, ?_⟩
  · rw [sameRow, if_pos given', named]
    rfl
  · rw [agreeAt_iff, Except.forall_mem_iff_of_mapM written]
    intro position member c written
    obtain ⟨f, there⟩ := exists_field_of_positionsOf named member
    rw [there] at written
    exact satisfies_of_equality typed typed' (Layout.fieldOf?_of_getElem? there) written

/-- The clause for the identifier of a record is satisfied by the record with that identifier. -/
theorem sameRow_of_identified (typed' : r.type = b.layout.type) (identified : b.identity a ≠ "")
    (written : b.clauses a [] = .ok cs) :
    ∃ verdict, b.sameRow a r [] = .ok verdict
      ∧ (verdict = true ↔ ∀ c ∈ cs, b.Satisfies r c) := by
  rw [clauses_of_identified identified] at written
  cases written
  refine ⟨b.identity a == b.identity r, sameRow_eq_of_identified identified r, ?_⟩
  rw [List.forall_mem_singleton, beq_iff_eq,
    satisfies_identityClause typed' b.layout.fieldOf?_idColumn]

/-- Clauses for an index are satisfied by the records that agree in all of its columns; but for
being the same row it is enough to agree in all columns of any index. -/
theorem sameRow_of_indexed (typed : a.type = b.layout.type) (typed' : r.type = b.layout.type)
    (unidentified : b.identity a = "") (written : b.clauses a [] = .ok cs) :
    ∃ usable, b.indexGroups.find? (isUsable a) = some usable
      ∧ ((∀ c ∈ cs, b.Satisfies r c) ↔ agreeAt a r (usable.map Prod.fst) = true)
      ∧ b.sameRow a r [] =
        .ok (b.indexGroups.any fun group => agreeAt a r (group.map Prod.fst)) := by
  rw [clauses_of_unidentified unidentified] at written
  split at written
  next usable found =>
    have listed := List.mem_of_find?_eq_some found
    refine ⟨usable, found, ?_, ?_⟩
    · rw [agreeAt_iff,
        Except.forall_mem_iff_of_mapM (P := fun e => a.get? e.1 = r.get? e.1) written]
      · simp
      · intro e member c written
        exact satisfies_of_equality typed typed' (fieldOf?_of_mem_indexGroups listed member) written
    · have indexed : b.indexGroups.isEmpty = false :=
        List.isEmpty_eq_false_iff_exists_mem.mpr ⟨usable, listed⟩
      rw [sameRow_eq_of_unidentified unidentified, indexed, if_neg Bool.false_ne_true]
  next => cases written

/-- A record that differs from another in a single field, in which that has a value. -/
theorem exists_unlike (typed : a.type = b.layout.type) {column : String} {position : Nat}
    (mapped : b.layout.fieldOf? column = some position)
    (used : (a.get? position).any (fun value => !value.isDefault) = true) :
    ∃ r : Record, r.type = a.type ∧ a.get? position ≠ r.get? position
      ∧ ∀ other, other ≠ position → a.get? other = r.get? other := by
  obtain ⟨f, there, -⟩ := Layout.column_of_fieldOf? mapped
  have there' : a.type.fields[position]? = some f := by
    rw [typed]
    exact there
  have taken : a.type.takes position (f.type.toValue f.type.blank) = true := by
    rw [RecordType.takes, there', Option.any_some, FieldType.ofValue?_toValue, Option.isSome_some]
  obtain ⟨r, changed⟩ := a.exists_set taken
  refine ⟨r, Record.type_of_set changed, ?_, fun other ne => ?_⟩
  · intro same
    rw [same, Record.get?_of_set changed, if_pos rfl, Option.any_some, f.type.isDefault_blank]
      at used
    cases used
  · rw [Record.get?_of_set changed, if_neg ne]

/-- Whether it makes no difference which index decides that a record is of the row that a reference
record stands for: fields are given by name, or the reference record has an identifier, or every
index has all columns of the one for which clauses are written. -/
def Decisive (b : Binding) (a : Record) (names : List String) : Prop :=
  names = [] → b.identity a = "" → ∀ usable ∈ b.indexGroups.find? (isUsable a),
    ∀ group ∈ b.indexGroups, usable ⊆ group

/-- Every index has all columns of one of them exactly if no record agrees with a reference record
in all columns of some index and not in those of that one. -/
theorem subset_iff_agreeAt (typed : a.type = b.layout.type) {usable : List (Nat × String)}
    (found : b.indexGroups.find? (isUsable a) = some usable) :
    (∀ r, r.type = a.type →
        (b.indexGroups.any fun group => agreeAt a r (group.map Prod.fst)) = true →
        agreeAt a r (usable.map Prod.fst) = true)
      ↔ ∀ group ∈ b.indexGroups, usable ⊆ group := by
  have listed := List.mem_of_find?_eq_some found
  constructor
  · intro agree group member e inUsable
    -- Otherwise a record that differs in this column alone would agree on the other index.
    by_contra lacking
    have allUsed : isUsable a usable = true := List.find?_some found
    have used := List.all_eq_true.mp allUsed e inUsable
    have mapped := fieldOf?_of_mem_indexGroups listed inUsable
    obtain ⟨r, sameType, differs, others⟩ := exists_unlike typed mapped used
    apply differs
    refine agreeAt_iff.mp (agree r sameType ?_) e.1 (List.mem_map.mpr ⟨e, inUsable, rfl⟩)
    refine List.any_eq_true.mpr ⟨group, member, agreeAt_iff.mpr fun position inGroup => ?_⟩
    obtain ⟨e', member', rfl⟩ := List.mem_map.mp inGroup
    refine others e'.1 fun same => lacking ?_
    have mapped' := fieldOf?_of_mem_indexGroups member member'
    rw [same] at mapped'
    have sameColumn : e'.2 = e.2 := Layout.fieldOf?_injective mapped' mapped
    exact Prod.ext same sameColumn ▸ member'
  · intro subset r _ selected
    obtain ⟨group, member, agrees⟩ := List.any_eq_true.mp selected
    refine agreeAt_iff.mpr fun position mapped => ?_
    obtain ⟨e, inUsable, rfl⟩ := List.mem_map.mp mapped
    exact agreeAt_iff.mp agrees e.1 (List.mem_map.mpr ⟨e, subset group member inUsable, rfl⟩)

theorem ok_true_iff {x : Except Fault Bool} {asked : Prop}
    (decided : ∃ verdict, x = .ok verdict ∧ (verdict = true ↔ asked)) : x = .ok true ↔ asked := by
  obtain ⟨verdict, rfl, decides⟩ := decided
  rw [Except.ok.injEq, decides]

/-- A record that satisfies the clauses of a reference record is of the same row. -/
theorem sameRow_of_satisfies (typed : a.type = b.layout.type) (typed' : r.type = b.layout.type)
    (written : b.clauses a names = .ok cs) : ∃ verdict, b.sameRow a r names = .ok verdict
      ∧ ((∀ c ∈ cs, b.Satisfies r c) → verdict = true) := by
  by_cases given : names = []
  · subst given
    by_cases unidentified : b.identity a = ""
    · obtain ⟨usable, found, asked, decided⟩ := sameRow_of_indexed typed typed' unidentified written
      refine ⟨_, decided, fun satisfied => List.any_eq_true.mpr ?_⟩
      exact ⟨usable, List.mem_of_find?_eq_some found, asked.mp satisfied⟩
    · obtain ⟨verdict, decided, decides⟩ := sameRow_of_identified typed' unidentified written
      exact ⟨verdict, decided, decides.mpr⟩
  · obtain ⟨verdict, decided, decides⟩ := sameRow_of_named typed typed' given written
    exact ⟨verdict, decided, decides.mpr⟩

/-- Being of the same row as a reference record is to satisfy its clauses, for all records, exactly
if it makes no difference which index decides. -/
theorem sameRow_iff_satisfies_iff (typed : a.type = b.layout.type)
    (written : b.clauses a names = .ok cs) :
    (∀ r, r.type = a.type → (b.sameRow a r names = .ok true ↔ ∀ c ∈ cs, b.Satisfies r c))
      ↔ b.Decisive a names := by
  by_cases given : names = []
  · subst given
    by_cases unidentified : b.identity a = ""
    · obtain ⟨usable, found, -, -⟩ := sameRow_of_indexed typed typed unidentified written
      have decisive : b.Decisive a [] ↔ ∀ group ∈ b.indexGroups, usable ⊆ group := by
        rw [Decisive, found]
        simp [unidentified]
      -- Clauses are written for the usable index, while any index decides who is selected.
      rw [decisive, ← subset_iff_agreeAt typed found]
      refine forall₂_congr fun r sameType => ?_
      obtain ⟨usable', found', asked, decided⟩ :=
        sameRow_of_indexed typed (sameType.trans typed) unidentified written
      rw [found] at found'
      cases found'
      rw [asked, decided, Except.ok.injEq]
      refine ⟨Iff.mp, fun agrees => ⟨agrees, fun agrees' => ?_⟩⟩
      exact List.any_eq_true.mpr ⟨usable, List.mem_of_find?_eq_some found, agrees'⟩
    · refine iff_of_true (fun r sameType => ?_) fun _ absurdly => absurd absurdly unidentified
      exact ok_true_iff (sameRow_of_identified (sameType.trans typed) unidentified written)
  · refine iff_of_true (fun r sameType => ?_) fun absurdly => absurd absurdly given
    exact ok_true_iff (sameRow_of_named typed (sameType.trans typed) given written)

end Binding

/-! ## Selections -/

variable {schema : Schema} {registry : Registry} {s : Store} {a : Record} {names : List String}
  {c : Selection} {cs : List Clause}

/-- A record type is bound by the layout that it has. -/
theorem Store.Serves.type_of_bindingFor (serves : s.Serves schema registry) {t : RecordType}
    {b : Binding} (bound : s.bindingFor t = .ok b) : t = b.layout.type := by
  obtain ⟨table, registered, bound⟩ := Except.bind_eq_ok_iff.mp bound
  have registered' := Except.mapError_eq_ok_iff.mp registered
  have bound' := Except.mapError_eq_ok_iff.mp (Except.mapError_eq_ok_iff.mp bound)
  rw [Store.tableFor, Registry.tableFor?, serves.sameRegistry] at registered'
  have layout := (Registry.binding?_eq_some_iff.mp ((serves.bindings table b).mp bound')).1
  cases found : registry.layout? t.table with
  | none =>
    rw [found] at registered'
    cases registered'
  | some l =>
    simp only [found] at registered'
    split at registered'
    next known =>
      split at known
      next same =>
        cases known
        cases registered'
        rw [found] at layout
        cases layout
        exact same.symm
      next => cases known
    next => cases registered'

namespace Selection

theorem ofRecord_eq_ok (made : ofRecord s a names = .ok c) :
    s.bindingFor a.type = .ok c.binding ∧ c.rule = .reference a names := by
  obtain ⟨b, bound, made⟩ := Except.bind_eq_ok_iff.mp made
  split at made
  next => cases made
  next =>
    cases made
    exact ⟨bound, rfl⟩

theorem ofPredicate_eq_ok_iff {type : RecordType} {test : Record → Bool} :
    ofPredicate s type test = .ok c ↔
      s.bindingFor type = .ok c.binding ∧ c.rule = .predicate type test := by
  rw [ofPredicate, Except.bind_eq_ok_iff]
  constructor
  · rintro ⟨b, bound, made⟩
    cases made
    exact ⟨bound, rfl⟩
  · rintro ⟨bound, rule⟩
    refine ⟨c.binding, bound, congrArg Except.ok ?_⟩
    rw [← rule]

theorem clauses_of_reference (reference : c.rule = .reference a names)
    (written : c.clauses s = .ok [cs]) : c.binding.clauses a names = .ok cs := by
  rw [clauses, reference] at written
  obtain ⟨cs', written, done⟩ := Except.bind_eq_ok_iff.mp written
  cases done
  exact Except.mapError_eq_ok_iff.mp written

theorem selects_eq_ok_iff (reference : c.rule = .reference a names) {r : Record} {verdict : Bool} :
    c.selects r = .ok verdict ↔ c.binding.sameRow a r names = .ok verdict := by
  rw [selects, reference]
  exact Except.mapError_eq_ok_iff

/-- A record that satisfies the clauses of a selection by a reference record is selected. The
records that are selected are exactly those that satisfy the clauses if fields are given by name, if
the reference record has an identifier, or if every index has all columns of the first one in all of
whose columns the reference record has values, and in no other case. -/
theorem selects_iff_satisfies_iff {capacity : Nat} {start : Replica}
    (created : Replica.new schema registry capacity = .ok start) (reports : List Changes)
    (made : ofRecord (start.populateAll reports).1.store a names = .ok c)
    (written : c.clauses (start.populateAll reports).1.store = .ok [cs]) :
    (∀ r, r.type = a.type → ∃ verdict, c.selects r = .ok verdict
        ∧ ((∀ k ∈ cs, c.binding.Satisfies r k) → verdict = true))
      ∧ ((∀ r, r.type = a.type → (c.selects r = .ok true ↔ ∀ k ∈ cs, c.binding.Satisfies r k))
        ↔ c.binding.Decisive a names) := by
  obtain ⟨bound, reference⟩ := ofRecord_eq_ok made
  have typed := (Replica.serves created reports).type_of_bindingFor bound
  have written' := clauses_of_reference reference written
  constructor
  · intro r sameType
    simp only [selects_eq_ok_iff reference]
    exact Binding.sameRow_of_satisfies typed (sameType.trans typed) written'
  · simp only [selects_eq_ok_iff reference]
    exact Binding.sameRow_iff_satisfies_iff typed written'

/-- Bridges that are selected by the name of one are those that satisfy the clause for its name. -/
theorem selects_iff_satisfies_by_name :
    ∃ start c, Replica.new Sample.schema Sample.registry 4 = .ok start
      ∧ ofRecord (start.populateAll []).1.store (Sample.record "" "br0" "") ["name"] = .ok c
      ∧ c.clauses (start.populateAll []).1.store = .ok [[⟨"name", .equal, .atom (.string "br0")⟩]]
      ∧ ∀ r, r.type = Sample.bridge.type → (c.selects r = .ok true ↔
        ∀ k ∈ [Clause.mk "name" .equal (.atom (.string "br0"))], c.binding.Satisfies r k) := by
  obtain ⟨start, c, created, made, written⟩ :
      ∃ start c, Replica.new Sample.schema Sample.registry 4 = .ok start
        ∧ ofRecord (start.populateAll []).1.store (Sample.record "" "br0" "") ["name"] = .ok c
        ∧ c.clauses (start.populateAll []).1.store =
          .ok [[⟨"name", .equal, .atom (.string "br0")⟩]] :=
    ⟨_, _, rfl, rfl, rfl⟩
  refine ⟨start, c, created, made, written, ?_⟩
  refine (selects_iff_satisfies_iff created [] made written).2.mpr fun given => ?_
  cases given

/-- A bridge without a kind of datapath is selected by any other such bridge, whose name the clauses
ask for. -/
theorem selects_other_name :
    ∃ start c, Replica.new Sample.schema Sample.registry 4 = .ok start
      ∧ ofRecord start.store (Sample.record "" "br0" "") [] = .ok c
      ∧ c.clauses start.store = .ok [[⟨"name", .equal, .atom (.string "br0")⟩]]
      ∧ c.selects (Sample.record "1" "br1" "") = .ok true
      ∧ ¬ c.binding.Satisfies (Sample.record "1" "br1" "")
        ⟨"name", .equal, .atom (.string "br0")⟩ := by
  refine ⟨_, _, rfl, rfl, rfl, rfl, ?_⟩
  rintro ⟨-, position, value, asked, has⟩
  cases asked
  exact absurd has (by decide)

end Selection

end TableReplica
