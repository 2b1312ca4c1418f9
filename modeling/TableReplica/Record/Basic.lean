import TableReplica.Record.Field

/-!
# Records

A record type names a table and the fields that stand for its columns; a record holds something of
the right type in each of its fields. Fields are addressed by position. Setting a field changes
nothing else (`Contents.get?_set?_of_ne`).
-/

namespace TableReplica

/-- The type of an application's records. -/
structure RecordType where
  name : String
  /-- The table whose rows the records stand for; empty if there is none. -/
  table : String
  fields : List Field
  /-- No two fields share a name. -/
  namesDistinct : (fields.map Field.name).Nodup := by decide
deriving DecidableEq

/-- What the fields of a record hold, field by field. -/
def Contents : List Field → Type
  | [] => Unit
  | f :: rest => f.type.Carrier × Contents rest

namespace Contents

/-- Decides whether two records of one type hold the same. -/
def decEq : (fields : List Field) → DecidableEq (Contents fields)
  | [] => inferInstanceAs (DecidableEq Unit)
  | f :: rest => @instDecidableEqProd f.type.Carrier (Contents rest) inferInstance (decEq rest)

instance (fields : List Field) : DecidableEq (Contents fields) := decEq fields

/-- What new records hold: the zero value of each field, as in the default that is derived for a
record type. -/
def blank : (fields : List Field) → Contents fields
  | [] => ()
  | f :: rest => (f.type.blank, blank rest)

/-- The column value of the field at a position. -/
def get? : (fields : List Field) → Contents fields → Nat → Option Value
  | [], _, _ => none
  | f :: _, (held, _), 0 => some (f.type.toValue held)
  | _ :: rest, (_, others), position + 1 => get? rest others position

/-- The contents with the field at a position set to a column value, if the field takes it. -/
def set? : (fields : List Field) → Contents fields → Nat → Value → Option (Contents fields)
  | [], _, _, _ => none
  | f :: _, (_, others), 0, value => (f.type.ofValue? value).map (·, others)
  | _ :: rest, (held, others), position + 1, value =>
    (set? rest others position value).map (held, ·)

theorem get?_set?_of_ne {fields : List Field} {before after : Contents fields}
    {position other : Nat} {value : Value}
    (changed : set? fields before position value = some after) (ne : other ≠ position) :
    get? fields after other = get? fields before other := by
  induction fields generalizing position other with
  | nil => simp [set?] at changed
  | cons f rest ih =>
    obtain ⟨held, others⟩ := before
    cases position with
    | zero =>
      obtain ⟨new, -, rfl⟩ := Option.map_eq_some_iff.mp changed
      cases other with
      | zero => exact absurd rfl ne
      | succ other => rfl
    | succ position =>
      obtain ⟨new, inner, rfl⟩ := Option.map_eq_some_iff.mp changed
      cases other with
      | zero => rfl
      | succ other => exact ih inner (by omega)

end Contents

/-- A record of some type. -/
structure Record where
  type : RecordType
  contents : Contents type.fields

namespace Record

instance : DecidableEq Record
  | ⟨s, a⟩, ⟨t, b⟩ =>
    if same : s = t then
      match (inferInstance : Decidable (same ▸ a = b)) with
      | isTrue equal => isTrue (by subst same; exact congrArg _ equal)
      | isFalse differ => isFalse (by subst same; rintro ⟨⟩; exact differ rfl)
    else isFalse fun equal => same (congrArg Record.type equal)

/-- The record of a type whose fields have not been set. It stands for the default of the record
type, which is the derived one: all of its fields have their zero values. -/
def blank (t : RecordType) : Record := ⟨t, Contents.blank t.fields⟩

/-- The table whose rows the record stands for. -/
def table (r : Record) : String := r.type.table

/-- The column value of the field at a position. -/
def get? (r : Record) (position : Nat) : Option Value :=
  Contents.get? r.type.fields r.contents position

/-- The record with the field at a position set to a column value. -/
def set (r : Record) (position : Nat) (value : Value) : Except ConversionFault Record :=
  match r.type.fields[position]? with
  | none => .error (.noSuchField position)
  | some f =>
    match Contents.set? r.type.fields r.contents position value with
    | some contents => .ok ⟨r.type, contents⟩
    | none => .error (.typeMismatch f.column f.type.valueType value)

end Record

end TableReplica
