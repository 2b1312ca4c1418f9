import TableReplica.Proofs.Record.Access
import TableReplica.Replica.Delta

/-!
# Decoding rows

What becomes of a record when a row is decoded onto it. Each column goes to one field or to none
(`Binding.target?`), the fields that no column goes to stay as they are (`Binding.decode_agreeOff`),
and the outcome is known from the row and those fields: records of one type that agree outside the
columns of a row are the same afterwards, or fail alike (`Binding.recordOf_congr`).
-/

/-- Elements with different keys are found under them. -/
theorem List.findIdx?_key_eq_some_iff {α : Type} {key : α → String} {l : List α}
    (distinct : (l.map key).Nodup) {k : String} {position : Nat} :
    l.findIdx? (fun a => key a == k) = some position ↔
      ∃ a, l[position]? = some a ∧ key a = k := by
  constructor
  · intro found
    obtain ⟨bound, same, -⟩ := List.findIdx?_eq_some_iff_getElem.mp found
    exact ⟨_, List.getElem?_eq_getElem bound, beq_iff_eq.mp same⟩
  · rintro ⟨a, there, rfl⟩
    obtain ⟨bound, rfl⟩ := List.getElem?_eq_some_iff.mp there
    refine List.findIdx?_eq_some_iff_getElem.mpr ⟨bound, beq_self_eq_true _, fun j before => ?_⟩
    rw [Bool.not_eq_true, beq_eq_false_iff_ne]
    have bound' : position < (l.map key).length := by
      rw [List.length_map]
      exact bound
    have apart := List.pairwise_iff_getElem.mp distinct j position
      (Nat.lt_trans before bound') bound' before
    rw [List.getElem_map, List.getElem_map] at apart
    exact apart

namespace TableReplica

namespace Layout

theorem exists_identity (l : Layout) :
    ∃ f, l.fields[l.identity]? = some f ∧ f.isIdentity = true := by
  have present : ∃ f ∈ l.fields, Field.isIdentity f = true := List.any_eq_true.mp l.hasIdentity
  refine ⟨_, List.findIdx_getElem?_eq_getElem_of_exists present, ?_⟩
  exact List.findIdx_getElem (w := List.findIdx_lt_length_of_exists present)

theorem takes_identity (l : Layout) (id : String) :
    l.type.takes l.identity (.scalar (.string id)) = true := by
  obtain ⟨f, there, isIdentity⟩ := l.exists_identity
  change (l.fields[l.identity]?).any _ = true
  rw [Field.isIdentity, Bool.and_eq_true, beq_iff_eq, beq_iff_eq] at isIdentity
  rw [there, Option.any_some, isIdentity.2]
  rfl

theorem column_of_fieldOf? {l : Layout} {column : String} {position : Nat}
    (mapped : l.fieldOf? column = some position) :
    ∃ f, l.fields[position]? = some f ∧ f.column = column :=
  (List.findIdx?_key_eq_some_iff l.columnsDistinct).mp mapped

/-- A field of a record of the layout has a column value of the type of the field. -/
theorem exists_held {l : Layout} {r : Record} (typed : r.type = l.type) {f : Field} {position : Nat}
    (there : l.fields[position]? = some f) :
    ∃ held : f.type.Carrier, r.get? position = some (f.type.toValue held) := by
  apply r.exists_held
  rw [typed]
  exact there

theorem get?_blank {l : Layout} {f : Field} {position : Nat}
    (there : l.fields[position]? = some f) :
    l.blank.get? position = some (f.type.toValue f.type.blank) :=
  Contents.get?_blank there

/-- A field is found under its column, since no other field stands for that. -/
theorem fieldOf?_of_getElem? {l : Layout} {f : Field} {position : Nat}
    (there : l.fields[position]? = some f) : l.fieldOf? f.column = some position :=
  (List.findIdx?_key_eq_some_iff l.columnsDistinct).mpr ⟨f, there, rfl⟩

theorem fieldOf?_idColumn (l : Layout) : l.fieldOf? Identifier.idColumn = some l.identity := by
  obtain ⟨f, there, isIdentity⟩ := l.exists_identity
  rw [Field.isIdentity, Bool.and_eq_true, beq_iff_eq] at isIdentity
  rw [← isIdentity.1]
  exact fieldOf?_of_getElem? there

/-- A field that stands for another column than the one of identifiers is not the one for the
identifier. -/
theorem ne_identity {l : Layout} {f : Field} {position : Nat}
    (there : l.fields[position]? = some f) (notIdentity : f.column ≠ Identifier.idColumn) :
    position ≠ l.identity := by
  rintro rfl
  obtain ⟨f', there', isIdentity⟩ := l.exists_identity
  rw [there] at there'
  cases there'
  rw [Field.isIdentity, Bool.and_eq_true, beq_iff_eq] at isIdentity
  exact notIdentity isIdentity.1

/-- Whether a field of a record of the layout takes a value is told by its type. -/
theorem takes_of_getElem? {l : Layout} {r : Record} (typed : r.type = l.type) {f : Field}
    {position : Nat} (there : l.fields[position]? = some f) (value : Value) :
    r.type.takes position value = (f.type.ofValue? value).isSome := by
  have there' : r.type.fields[position]? = some f := by
    rw [typed]
    exact there
  rw [RecordType.takes, there', Option.any_some]

/-- No two columns stand for one field. -/
theorem fieldOf?_injective {l : Layout} {column other : String} {position : Nat}
    (mapped : l.fieldOf? column = some position) (too : l.fieldOf? other = some position) :
    column = other := by
  obtain ⟨f, there, rfl⟩ := column_of_fieldOf? mapped
  obtain ⟨g, again, rfl⟩ := column_of_fieldOf? too
  rw [there] at again
  cases again
  rfl

end Layout

/-- Two records of one type that agree in all fields but some. -/
structure Record.AgreeOff (apart : Nat → Prop) (r s : Record) : Prop where
  sameType : r.type = s.type
  agree : ∀ position, ¬ apart position → r.get? position = s.get? position

namespace Record.AgreeOff

variable {apart wider : Nat → Prop} {r s : Record}

theorem refl (r : Record) : AgreeOff apart r r := ⟨rfl, fun _ _ => rfl⟩

theorem mono (agree : AgreeOff apart r s) (within : ∀ position, apart position → wider position) :
    AgreeOff wider r s :=
  ⟨agree.sameType, fun position outside =>
    agree.agree position fun inside => outside (within position inside)⟩

/-- Records that agree everywhere are equal. -/
theorem eq (agree : AgreeOff (fun _ => False) r s) : r = s :=
  Record.ext_get? agree.sameType fun position => agree.agree position id

/-- Setting a field of two records alike makes them agree in it. -/
theorem set {position : Nat} (agree : AgreeOff (fun p => apart p ∨ p = position) r s)
    (value : Value) :
    Except.Alike (AgreeOff apart) (r.set position value) (s.set position value) := by
  cases taken : r.type.takes position value with
  | true =>
    obtain ⟨r', first⟩ := r.exists_set taken
    obtain ⟨s', second⟩ := s.exists_set (agree.sameType ▸ taken)
    rw [first, second]
    refine .ok ⟨?_, fun other outside => ?_⟩
    · rw [Record.type_of_set first, Record.type_of_set second, agree.sameType]
    · rw [Record.get?_of_set first, Record.get?_of_set second]
      split
      next => rfl
      next ne => exact agree.agree other (not_or.mpr ⟨outside, ne⟩)
  | false =>
    rw [r.set_eq_error taken, s.set_eq_error (agree.sameType ▸ taken), agree.sameType]
    exact .error _

end Record.AgreeOff

namespace Binding

/-! ## Single columns -/

/-- The field that the data of a column are decoded into, if there is one. -/
def target? (b : Binding) (column : String) : Option Nat :=
  (b.layout.fieldOf? column).filter fun position =>
    position == b.layout.identity || (b.schema.column? column).isSome

/-- The field that a datum of a column is decoded into and the value that it is given, if there is
such a field. -/
def assignment? (b : Binding) (column : String) (datum : Datum) :
    Except ConversionFault (Option (Nat × Value)) :=
  match b.layout.fieldOf? column with
  | none => .ok none
  | some position =>
    if position = b.layout.identity then do
      return some (position, .scalar (.string (← decodeIdentity datum)))
    else
      match b.schema.column? column with
      | none => .ok none
      | some c => do return some (position, ← c.decode datum)

theorem assignment?_identity {b : Binding} {column id : String} {datum : Datum}
    (mapped : b.layout.fieldOf? column = some b.layout.identity)
    (read : decodeIdentity datum = .ok id) : b.assignment? column datum =
      .ok (some (b.layout.identity, .scalar (.string id))) := by
  simp only [assignment?, mapped, if_true, read]
  rfl

theorem assignment?_column {b : Binding} {column : String} {position : Nat} {c : ColumnSchema}
    {datum : Datum} {value : Value} (mapped : b.layout.fieldOf? column = some position)
    (notIdentity : position ≠ b.layout.identity) (present : b.schema.column? column = some c)
    (read : c.decode datum = .ok value) :
    b.assignment? column datum = .ok (some (position, value)) := by
  simp only [assignment?, mapped, notIdentity, if_false, present, read]
  rfl

/-- The record with an assignment carried out. -/
def assign (r : Record) : Option (Nat × Value) → Except ConversionFault Record
  | none => .ok r
  | some (position, value) => r.set position value

theorem decodeColumn_eq (b : Binding) (r : Record) (column : String) (datum : Datum) :
    b.decodeColumn r column datum = b.assignment? column datum >>= assign r := by
  rw [decodeColumn, assignment?]
  cases b.layout.fieldOf? column with
  | none => rfl
  | some position =>
    simp only
    split
    next isIdentity =>
      rw [isIdentity]
      cases decodeIdentity datum <;> rfl
    next =>
      cases b.schema.column? column with
      | none => rfl
      | some c =>
        simp only
        cases c.decode datum <;> rfl

theorem target?_of_assignment? {b : Binding} {column : String} {datum : Datum}
    {assigned : Option (Nat × Value)} (read : b.assignment? column datum = .ok assigned) :
    b.target? column = assigned.map Prod.fst := by
  rw [assignment?] at read
  rw [target?]
  cases mapped : b.layout.fieldOf? column with
  | none =>
    rw [mapped] at read
    cases read
    rfl
  | some position =>
    simp only [mapped] at read
    split at read
    next isIdentity =>
      obtain ⟨id, -, done⟩ := Except.bind_eq_ok_iff.mp read
      cases done
      simp [Option.filter, isIdentity]
    next notIdentity =>
      cases present : b.schema.column? column with
      | none =>
        rw [present] at read
        cases read
        simp [Option.filter, notIdentity]
      | some c =>
        rw [present] at read
        obtain ⟨value, -, done⟩ := Except.bind_eq_ok_iff.mp read
        cases done
        simp [Option.filter]

variable {b : Binding} {before after : Record} {column : String} {datum : Datum}

theorem decodeColumn_eq_ok_iff : b.decodeColumn before column datum = .ok after ↔
    ∃ assigned, b.assignment? column datum = .ok assigned ∧ assign before assigned = .ok after := by
  rw [decodeColumn_eq, Except.bind_eq_ok_iff]

theorem type_of_decodeColumn (decoded : b.decodeColumn before column datum = .ok after) :
    after.type = before.type := by
  obtain ⟨assigned, -, done⟩ := decodeColumn_eq_ok_iff.mp decoded
  cases assigned with
  | none =>
    cases done
    rfl
  | some assigned => exact Record.type_of_set done

theorem get?_of_decodeColumn (decoded : b.decodeColumn before column datum = .ok after)
    {position : Nat} (elsewhere : b.target? column ≠ some position) :
    after.get? position = before.get? position := by
  obtain ⟨assigned, read, done⟩ := decodeColumn_eq_ok_iff.mp decoded
  rw [target?_of_assignment? read] at elsewhere
  cases assigned with
  | none =>
    cases done
    rfl
  | some assigned =>
    have ne : position ≠ assigned.1 := fun same => elsewhere (same ▸ rfl)
    rw [Record.get?_of_set done, if_neg ne]

/-- Whether a datum can be decoded onto a record depends on the type of the record alone. -/
theorem exists_decodeColumn {other : Record}
    (decoded : b.decodeColumn before column datum = .ok after)
    (sameType : other.type = before.type) :
    ∃ r, b.decodeColumn other column datum = .ok r := by
  obtain ⟨assigned, read, done⟩ := decodeColumn_eq_ok_iff.mp decoded
  simp only [decodeColumn_eq_ok_iff]
  cases assigned with
  | none => exact ⟨other, none, read, rfl⟩
  | some assigned =>
    have taken : before.type.takes assigned.1 assigned.2 = true := Record.takes_of_set done
    obtain ⟨r, changed⟩ := other.exists_set (sameType ▸ taken)
    exact ⟨r, some assigned, read, changed⟩

theorem decodeColumn_alike {r s : Record} {apart : Nat → Prop} (column : String) (datum : Datum)
    (agree : Record.AgreeOff (fun p => apart p ∨ b.target? column = some p) r s) :
    Except.Alike (Record.AgreeOff apart) (b.decodeColumn r column datum)
      (b.decodeColumn s column datum) := by
  rw [decodeColumn_eq, decodeColumn_eq]
  cases read : b.assignment? column datum with
  | error fault => exact .error fault
  | ok assigned =>
    rw [target?_of_assignment? read] at agree
    cases assigned with
    | none =>
      refine .ok (agree.mono ?_)
      rintro position (inside | impossible)
      · exact inside
      · cases impossible
    | some assigned =>
      refine Record.AgreeOff.set (agree.mono ?_) assigned.2
      rintro position (inside | here)
      · exact .inl inside
      · exact .inr (Option.some.inj here).symm

/-! ## Rows -/

/-- Whether a column of a row is decoded into the field at a position. -/
def Reaches (b : Binding) (row : WireRow) (position : Nat) : Prop :=
  ∃ e ∈ row.toList, b.target? e.1 = some position

variable {row : WireRow}

theorem decode_eq_foldlM (b : Binding) (row : WireRow) (r : Record) :
    b.decode row r = row.toList.foldlM (fun r e => b.decodeColumn r e.1 e.2) r := rfl

theorem decode_agreeOff (decoded : b.decode row before = .ok after) :
    Record.AgreeOff (b.Reaches row) after before := by
  rw [decode_eq_foldlM] at decoded
  refine Except.foldlM_invariant (fun r => Record.AgreeOff (b.Reaches row) r before) ?_ (.refl _)
    decoded
  intro e member r r' kept step
  refine ⟨(type_of_decodeColumn step).trans kept.sameType, fun position outside => ?_⟩
  have elsewhere : b.target? e.1 ≠ some position := fun target => outside ⟨e, member, target⟩
  exact (get?_of_decodeColumn step elsewhere).trans (kept.agree position outside)

theorem fieldOf?_of_target? {position : Nat} (target : b.target? column = some position) :
    b.layout.fieldOf? column = some position :=
  (Option.filter_eq_some_iff.mp target).1

/-- A field has the value that the row assigns to it. -/
theorem get?_of_decode (decoded : b.decode row before = .ok after)
    (given : row.get? column = some datum) {position : Nat} {value : Value}
    (read : b.assignment? column datum = .ok (some (position, value))) :
    after.get? position = some value := by
  suffices general : ∀ (l : List (String × Datum)) (s : Record), (l.map Prod.fst).Nodup →
      (column, datum) ∈ l → l.foldlM (fun r e => b.decodeColumn r e.1 e.2) s = .ok after →
      after.get? position = some value from
    general row.toList before row.keys_nodup (SortedMap.get?_eq_some_iff.mp given) decoded
  have target : b.target? column = some position := target?_of_assignment? read
  intro l
  induction l with
  | nil => exact fun s _ member => absurd member List.not_mem_nil
  | cons e rest ih =>
    intro s distinct member folded
    rw [List.map_cons, List.nodup_cons] at distinct
    rw [List.foldlM_cons, Except.bind_eq_ok_iff] at folded
    obtain ⟨next, step, later⟩ := folded
    rcases List.mem_cons.mp member with rfl | member
    -- The columns that follow are decoded into other fields.
    · refine Except.foldlM_invariant (fun r => r.get? position = some value) ?_ ?_ later
      · intro e' member' r r' kept step'
        refine (get?_of_decodeColumn step' fun target' => distinct.1 ?_).trans kept
        have same := Layout.fieldOf?_injective (fieldOf?_of_target? target)
          (fieldOf?_of_target? target')
        exact List.mem_map.mpr ⟨e', member', same.symm⟩
      · obtain ⟨assigned, read', changed⟩ := decodeColumn_eq_ok_iff.mp step
        rw [read] at read'
        cases read'
        exact (Record.get?_of_set changed position).trans (if_pos rfl)
    · exact ih next distinct.2 member later

/-- Whether and to what a row is decoded depends on the fields that it does not reach. -/
theorem decode_alike (apart : Nat → Prop) {r s : Record}
    (agree : Record.AgreeOff (fun p => apart p ∨ b.Reaches row p) r s) :
    Except.Alike (Record.AgreeOff apart) (b.decode row r) (b.decode row s) := by
  -- What is still apart in the middle of the row is what its remaining columns reach.
  let kept (rest : List (String × Datum)) : Record → Record → Prop :=
    Record.AgreeOff fun p => apart p ∨ ∃ e ∈ rest, b.target? e.1 = some p
  have steps : ∀ e rest r s, kept (e :: rest) r s →
      Except.Alike (kept rest) (b.decodeColumn r e.1 e.2) (b.decodeColumn s e.1 e.2) := by
    intro e rest r s agree
    refine decodeColumn_alike e.1 e.2 (agree.mono ?_)
    rintro position (inside | ⟨e', member, target⟩)
    · exact .inl (.inl inside)
    · rcases List.mem_cons.mp member with rfl | later
      · exact .inr target
      · exact .inl (.inr ⟨e', later, target⟩)
  have done : Except.Alike (kept []) (b.decode row r) (b.decode row s) :=
    Except.Alike.foldlM kept (l := row.toList) steps agree
  refine done.mono fun r' s' agree' => agree'.mono ?_
  rintro position (inside | ⟨_, impossible, _⟩)
  · exact inside
  · cases impossible

/-- A row can be decoded onto a record exactly if each of its data can. -/
theorem exists_decode_iff {r : Record} : (∃ after, b.decode row r = .ok after) ↔
    ∀ e ∈ row.toList, ∃ after, b.decodeColumn r e.1 e.2 = .ok after := by
  simp only [decode_eq_foldlM]
  suffices general : ∀ (l : List (String × Datum)) (s : Record), s.type = r.type →
      ((∃ after, l.foldlM (fun r e => b.decodeColumn r e.1 e.2) s = .ok after) ↔
        ∀ e ∈ l, ∃ after, b.decodeColumn r e.1 e.2 = .ok after) from
    general row.toList r rfl
  -- Along the row only the type of the record matters, which stays as it is.
  intro l
  induction l with
  | nil => exact fun s _ => iff_of_true ⟨s, rfl⟩ (by simp)
  | cons e rest ih =>
    intro s sameType
    simp only [List.foldlM_cons, Except.bind_eq_ok_iff, List.forall_mem_cons]
    constructor
    · rintro ⟨after, s', step, later⟩
      have sameType' := (type_of_decodeColumn step).trans sameType
      exact ⟨exists_decodeColumn step sameType.symm, (ih s' sameType').mp ⟨after, later⟩⟩
    · rintro ⟨⟨_, decoded⟩, decodable⟩
      obtain ⟨s', step⟩ := exists_decodeColumn decoded sameType
      have sameType' := (type_of_decodeColumn step).trans sameType
      obtain ⟨after, later⟩ := (ih s' sameType').mpr decodable
      exact ⟨after, s', step, later⟩

/-! ## Records of rows -/

/-- The fields that the record of a row does not take over from the record below it. -/
def Covers (b : Binding) (row : WireRow) (position : Nat) : Prop :=
  position = b.layout.identity ∨ b.Reaches row position

variable {base r s : Record} {id : String}

theorem recordOf_eq_ok_iff : b.recordOf id base row = .ok r ↔
    ∃ decoded, b.decode row base = .ok decoded ∧ b.setIdentity decoded id = .ok r :=
  Except.bind_eq_ok_iff

theorem recordOf_agreeOff (made : b.recordOf id base row = .ok r) :
    Record.AgreeOff (b.Covers row) r base := by
  obtain ⟨decoded, decodes, identified⟩ := recordOf_eq_ok_iff.mp made
  have below : Record.AgreeOff (b.Covers row) decoded base :=
    (decode_agreeOff decodes).mono fun _ reached => .inr reached
  refine ⟨(Record.type_of_set identified).trans below.sameType, fun position outside => ?_⟩
  have ne : position ≠ b.layout.identity := fun same => outside (.inl same)
  rw [Record.get?_of_set identified, if_neg ne, below.agree position outside]

theorem type_of_recordOf (made : b.recordOf id base row = .ok r) : r.type = base.type :=
  (recordOf_agreeOff made).sameType

/-- A field whose column the row does not have is taken over from the record below. -/
theorem get?_of_recordOf_of_absent (made : b.recordOf id base row = .ok r) {position : Nat}
    {f : Field} (there : b.layout.fields[position]? = some f)
    (notIdentity : position ≠ b.layout.identity) (absent : row.get? f.column = none) :
    r.get? position = base.get? position := by
  refine (recordOf_agreeOff made).agree position ?_
  rintro (isIdentity | ⟨e, listed, target⟩)
  · exact notIdentity isIdentity
  · have same := Layout.fieldOf?_injective (fieldOf?_of_target? target)
      (Layout.fieldOf?_of_getElem? there)
    have given := SortedMap.get?_eq_some_iff.mpr listed
    rw [same, absent] at given
    cases given

/-- Any other field has the value that the row assigns to it. -/
theorem get?_of_recordOf_of_given (made : b.recordOf id base row = .ok r)
    (given : row.get? column = some datum) {position : Nat} {value : Value}
    (notIdentity : position ≠ b.layout.identity)
    (read : b.assignment? column datum = .ok (some (position, value))) :
    r.get? position = some value := by
  obtain ⟨decoded, decodes, identified⟩ := recordOf_eq_ok_iff.mp made
  rw [Record.get?_of_set identified, if_neg notIdentity]
  exact get?_of_decode decodes given read

/-- The record of a row has the identifier under which the row is reported. -/
theorem identity_of_recordOf (made : b.recordOf id base row = .ok r) : b.identity r = id := by
  obtain ⟨_, _, identified⟩ := recordOf_eq_ok_iff.mp made
  rw [identity, Record.get?_of_set identified, if_pos rfl]
  rfl

/-- The record of a row, and whether there is one, is known from the row and from the fields of the
record below that the row does not cover. -/
theorem recordOf_congr (agree : Record.AgreeOff (b.Covers row) r s) :
    b.recordOf id r row = b.recordOf id s row := by
  apply Except.Alike.eq
  refine Except.Alike.bind (decode_alike (· = b.layout.identity) agree) ?_
  intro r' s' agree'
  have nothingElse : Record.AgreeOff (fun p => False ∨ p = b.layout.identity) r' s' :=
    agree'.mono fun _ same => .inr same
  exact (nothingElse.set _).mono fun _ _ same => same.eq

/-- A row that can be decoded onto a record of the table has a record. -/
theorem exists_recordOf_of_decode (id : String) (typed : base.type = b.layout.type)
    (decodes : ∃ decoded, b.decode row base = .ok decoded) :
    ∃ r, b.recordOf id base row = .ok r := by
  obtain ⟨decoded, decodes⟩ := decodes
  have taken : decoded.type.takes b.layout.identity (.scalar (.string id)) = true := by
    rw [(decode_agreeOff decodes).sameType, typed]
    exact b.layout.takes_identity id
  obtain ⟨r, identified⟩ := decoded.exists_set taken
  exact ⟨r, recordOf_eq_ok_iff.mpr ⟨decoded, decodes, identified⟩⟩

/-- A row has a record if each of its data can be decoded. -/
theorem exists_recordOf (id : String)
    (columns : ∀ e ∈ row.toList, ∃ after, b.decodeColumn b.layout.blank e.1 e.2 = .ok after) :
    ∃ r, b.recordOf id b.layout.blank row = .ok r :=
  exists_recordOf_of_decode id rfl (exists_decode_iff.mpr columns)

end Binding

end TableReplica
