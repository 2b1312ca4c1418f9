import TableReplica.Proofs.Record.Carrier

/-!
# Getting and setting

The laws of access to the fields of a record by position. Whether a field can be set to a value
depends on the type of the record alone (`Record.exists_set`, `Record.set_eq_error`); a field that
has been set has the value it was set to, and every other field has the one it had
(`Record.get?_of_set`).
-/

namespace TableReplica

namespace Contents

theorem get?_set?_self {fields : List Field} {before after : Contents fields} {position : Nat}
    {value : Value} (changed : set? fields before position value = some after) :
    get? fields after position = some value := by
  induction fields generalizing position with
  | nil => cases changed
  | cons f rest ih =>
    obtain ⟨held, others⟩ := before
    cases position with
    | zero =>
      obtain ⟨new, taken, rfl⟩ := Option.map_eq_some_iff.mp changed
      exact congrArg some (FieldType.toValue_of_ofValue? taken)
    | succ position =>
      obtain ⟨new, inner, rfl⟩ := Option.map_eq_some_iff.mp changed
      exact ih inner

theorem get?_set? {fields : List Field} {before after : Contents fields} {position : Nat}
    {value : Value} (changed : set? fields before position value = some after) (other : Nat) :
    get? fields after other =
      if other = position then some value else get? fields before other := by
  split
  next same => rw [same, get?_set?_self changed]
  next ne => exact get?_set?_of_ne changed ne

theorem set?_isSome {fields : List Field} (contents : Contents fields) (position : Nat)
    (value : Value) : (set? fields contents position value).isSome =
      (fields[position]?).any fun f => (f.type.ofValue? value).isSome := by
  induction fields generalizing position with
  | nil => rfl
  | cons f rest ih =>
    obtain ⟨held, others⟩ := contents
    cases position with
    | zero => exact Option.isSome_map
    | succ position => exact Option.isSome_map.trans (ih others position)

/-- Contents are known from the column values of the fields. -/
theorem ext_get? {fields : List Field} {a b : Contents fields}
    (same : ∀ position, get? fields a position = get? fields b position) : a = b := by
  induction fields with
  | nil => rfl
  | cons f rest ih =>
    obtain ⟨held, others⟩ := a
    obtain ⟨held', others'⟩ := b
    have first : held = held' := f.type.toValue_injective (Option.some.inj (same 0))
    have later : others = others' := ih fun position => same (position + 1)
    rw [first, later]

theorem exists_held {fields : List Field} (contents : Contents fields) {position : Nat} {f : Field}
    (there : fields[position]? = some f) :
    ∃ held : f.type.Carrier, get? fields contents position = some (f.type.toValue held) := by
  induction fields generalizing position with
  | nil => cases there
  | cons g rest ih =>
    obtain ⟨held, others⟩ := contents
    cases position with
    | zero =>
      cases there
      exact ⟨held, rfl⟩
    | succ position => exact ih others there

theorem get?_of_length_le {fields : List Field} (contents : Contents fields) {position : Nat}
    (beyond : fields.length ≤ position) : get? fields contents position = none := by
  induction fields generalizing position with
  | nil => rfl
  | cons g rest ih =>
    obtain ⟨held, others⟩ := contents
    cases position with
    | zero => cases beyond
    | succ position => exact ih others (Nat.le_of_succ_le_succ beyond)

theorem get?_blank {fields : List Field} {position : Nat} {f : Field}
    (there : fields[position]? = some f) :
    get? fields (blank fields) position = some (f.type.toValue f.type.blank) := by
  induction fields generalizing position with
  | nil => cases there
  | cons g rest ih =>
    cases position with
    | zero =>
      cases there
      rfl
    | succ position => exact ih there

end Contents

/-- Whether records of a type have a field at a position that takes a value. -/
def RecordType.takes (t : RecordType) (position : Nat) (value : Value) : Bool :=
  (t.fields[position]?).any fun f => (f.type.ofValue? value).isSome

/-- Why records of a type cannot have the field at a position set to a value that it does not
take. -/
def RecordType.refusal (t : RecordType) (position : Nat) (value : Value) : ConversionFault :=
  match t.fields[position]? with
  | none => .noSuchField position
  | some f => .typeMismatch f.column f.type.valueType value

namespace Record

/-- Records of one type are known from the column values of their fields. -/
theorem ext_get? {a b : Record} (sameType : a.type = b.type)
    (same : ∀ position, a.get? position = b.get? position) : a = b := by
  obtain ⟨t, contents⟩ := a
  obtain ⟨t', contents'⟩ := b
  cases sameType
  exact congrArg (Record.mk t) (Contents.ext_get? same)

/-- A field of a record has a column value of its own type. -/
theorem exists_held (r : Record) {position : Nat} {f : Field}
    (there : r.type.fields[position]? = some f) :
    ∃ held : f.type.Carrier, r.get? position = some (f.type.toValue held) :=
  Contents.exists_held r.contents there

variable {before after : Record} {position : Nat} {value : Value}

theorem set?_of_set (changed : before.set position value = .ok after) :
    ∃ contents, Contents.set? before.type.fields before.contents position value = some contents
      ∧ after = ⟨before.type, contents⟩ := by
  rw [Record.set] at changed
  split at changed
  next => cases changed
  next =>
    split at changed
    next contents placed =>
      cases changed
      exact ⟨contents, placed, rfl⟩
    next => cases changed

theorem type_of_set (changed : before.set position value = .ok after) :
    after.type = before.type := by
  obtain ⟨_, _, rfl⟩ := set?_of_set changed
  rfl

/-- A field that was set has its new value, and every other field the one it had. -/
theorem get?_of_set (changed : before.set position value = .ok after) (other : Nat) :
    after.get? other = if other = position then some value else before.get? other := by
  obtain ⟨_, placed, rfl⟩ := set?_of_set changed
  exact Contents.get?_set? placed other

/-- Whether a field can be set depends on the type of the record alone. -/
theorem exists_set (r : Record) {position : Nat} {value : Value}
    (taken : r.type.takes position value = true) : ∃ after, r.set position value = .ok after := by
  have placed := Contents.set?_isSome r.contents position value
  rw [RecordType.takes, ← placed] at taken
  obtain ⟨contents, changed⟩ := Option.isSome_iff_exists.mp taken
  rw [Record.set]
  split
  next absent => simp [changed, absent] at placed
  next => simp [changed]

/-- And so does the reason why it cannot. -/
theorem set_eq_error (r : Record) {position : Nat} {value : Value}
    (refused : r.type.takes position value = false) :
    r.set position value = .error (r.type.refusal position value) := by
  have placed := Contents.set?_isSome r.contents position value
  rw [RecordType.takes, ← placed, Option.isSome_eq_false_iff, Option.isNone_iff_eq_none] at refused
  rw [Record.set, RecordType.refusal, refused]
  cases r.type.fields[position]? <;> rfl

theorem takes_of_set (changed : before.set position value = .ok after) :
    before.type.takes position value = true := by
  by_contra refused
  rw [Bool.not_eq_true] at refused
  rw [before.set_eq_error refused] at changed
  cases changed

end Record

end TableReplica
