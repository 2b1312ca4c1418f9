import TableReplica.Proofs.Value.Meaning

/-!
# Legal data

The data that the type of a column allows: atoms of the right type, within the enumeration if there
is one, and no fewer and no more of them than the type asks for. A column decodes everything that is
legal for it, except several values of an enumeration (`ColumnSchema.decode_legal_iff`).
-/

namespace TableReplica

/-- Whether an atom is one of an atomic type. Whole reals may travel as integers. -/
inductive AtomicType.Holds : AtomicType → Atom → Prop
  | integer (i : Int64) : Holds .integer (.integer i)
  | real (r : Real64) : Holds .real (.real r)
  | whole (i : Int64) : Holds .real (.integer i)
  | boolean (b : Bool) : Holds .boolean (.boolean b)
  | string (s : String) : Holds .string (.string s)
  | uuid (id : String) : Holds .uuid (.uuid id)
  | namedUuid (name : String) : Holds .uuid (.namedUuid name)

/-- Whether an atom is of a base type and, if this is an enumeration, one of its values. -/
structure BaseType.Admits (b : BaseType) (a : Atom) : Prop where
  held : b.kind.Holds a
  listed : ∀ values, b.enumeration = some values → b.kind.plain a ∈ values.map b.kind.plain

/-- Whether a type allows for a number of elements. -/
structure ColumnType.Allows (t : ColumnType) (n : Nat) : Prop where
  least : t.min.toInt ≤ n
  greatest : t.max ≠ ColumnType.unlimited → n ≤ t.max.toInt

/-- Whether a datum is one of the type of a column. -/
inductive ColumnSchema.Legal (c : ColumnSchema) : Datum → Prop
  /-- Of a type that is just named there is one element. -/
  | named {type : AtomicType} {a : Atom} {datum : Datum} (kind : c.kind = .atomic type)
      (bare : c.type? = none) (lists : datum.Lists [a]) (held : type.Holds a) : Legal c datum
  | elements {t : ColumnType} {atoms : List Atom} {datum : Datum} (given : c.type? = some t)
      (noValue : t.value = none) (lists : datum.Lists atoms)
      (admitted : ∀ a ∈ atoms, t.key.Admits a) (allowed : t.Allows atoms.length) : Legal c datum
  | entries {t : ColumnType} {mapped : BaseType} {entries : List (Atom × Atom)}
      (given : c.type? = some t) (value : t.value = some mapped)
      (held : ∀ e ∈ entries, t.key.kind.Holds e.1 ∧ mapped.kind.Holds e.2) : Legal c (.map entries)

theorem AtomicType.exists_decode?_iff {type : AtomicType} {a : Atom} :
    (∃ s, type.decode? a = some s) ↔ type.Holds a := by
  constructor
  · rintro ⟨s, decoded⟩
    cases type <;> cases a <;> cases decoded <;> constructor
  · intro held
    cases held <;> exact ⟨_, rfl⟩

namespace ColumnSchema

variable {c : ColumnSchema} {datum : Datum} {t : ColumnType}

/-- An enumeration is decoded from no more than one element. -/
theorem Decodes.length_le {key : AtomicType} {value : Value} (kind : c.kind = .enumeration)
    (decodes : c.Decodes key datum value) {atoms : List Atom} (lists : datum.Lists atoms) :
    atoms.length ≤ 1 := by
  cases decodes with
  | set isSet => cases kind.symm.trans isSet
  | map isMap => cases kind.symm.trans isMap
  | scalar _ _ single =>
    cases Option.some.inj ((Datum.lists_iff.mp lists).symm.trans (Datum.lists_iff.mp single))
    exact Nat.le_refl 1
  | unset =>
    cases lists
    exact Nat.zero_le 1

theorem exists_decodes_elements (resolved : c.Resolved) (given : c.type? = some t)
    (noValue : t.value = none) {atoms : List Atom} (lists : datum.Lists atoms)
    (admitted : ∀ a ∈ atoms, t.key.Admits a) (allowed : t.Allows atoms.length)
    (single : t.key.enumeration ≠ none → atoms.length ≤ 1) :
    ∃ value, c.Decodes t.key.kind datum value := by
  have decodable : ∀ a ∈ atoms, ∃ s, t.key.kind.decode? a = some s :=
    fun a member => AtomicType.exists_decode?_iff.mpr (admitted a member).held
  have kind := resolved.kind_eq given
  rw [ColumnType.columnKind, noValue] at kind
  simp only [Option.isSome_none, Bool.false_eq_true, if_false] at kind
  split_ifs at kind with enumerated exactlyOne
  · -- The elements of an enumeration are none or one.
    have atMostOne := single (Option.isSome_iff_ne_none.mp enumerated)
    cases atoms with
    | nil =>
      cases lists
      exact ⟨_, .unset kind⟩
    | cons a rest =>
      obtain ⟨s, decoded⟩ := decodable a List.mem_cons_self
      have alone : rest = [] := List.length_eq_zero_iff.mp (by simpa using atMostOne)
      subst alone
      exact ⟨_, .scalar (by simp [kind]) (by simp [kind]) lists decoded⟩
  · have one : atoms.length = 1 := by
      obtain ⟨least, greatest⟩ := allowed
      rw [exactlyOne.1] at least
      rw [exactlyOne.2] at greatest
      have atLeast : (1 : Int) ≤ atoms.length := least
      have atMost : (atoms.length : Int) ≤ 1 := greatest (by decide)
      omega
    obtain ⟨a, rfl⟩ := List.length_eq_one_iff.mp one
    obtain ⟨s, decoded⟩ := decodable a List.mem_cons_self
    exact ⟨_, .scalar (by simp [kind]) (by simp [kind]) lists decoded⟩
  · obtain ⟨elements, each⟩ := List.exists_forall₂ decodable
    exact ⟨_, .set kind lists each⟩

theorem exists_decodes_entries (resolved : c.Resolved) (given : c.type? = some t)
    {mapped : BaseType} (value : t.value = some mapped) {entries : List (Atom × Atom)}
    (held : ∀ e ∈ entries, t.key.kind.Holds e.1 ∧ mapped.kind.Holds e.2) :
    ∃ value, c.Decodes t.key.kind (.map entries) value := by
  have kind := resolved.kind_eq given
  rw [ColumnType.columnKind, value, Option.isSome_some, if_pos rfl] at kind
  have decodable : ∀ e ∈ entries, ∃ pair : Scalar × Scalar,
      t.key.kind.decode? e.1 = some pair.1 ∧ mapped.kind.decode? e.2 = some pair.2 := by
    intro e member
    obtain ⟨s, first⟩ := AtomicType.exists_decode?_iff.mpr (held e member).1
    obtain ⟨s', second⟩ := AtomicType.exists_decode?_iff.mpr (held e member).2
    exact ⟨(s, s'), first, second⟩
  obtain ⟨pairs, each⟩ := List.exists_forall₂ decodable
  exact ⟨_, .map kind (mappedType_of_full given value) each⟩

/-- A column whose type has been read decodes the data that are legal for it, except several values
of an enumeration. -/
theorem decode_legal_iff {value : Json}
    (resolved : ColumnType.resolve value = .ok (c.kind, c.type?)) (legal : c.Legal datum) :
    (∃ v, c.decode datum = .ok v) ↔ ¬ ∃ t atoms, c.type? = some t ∧ t.value = none
      ∧ t.key.enumeration ≠ none ∧ datum.Lists atoms ∧ 1 < atoms.length := by
  have known := resolved_of_resolve resolved
  constructor
  · rintro ⟨v, decoded⟩ ⟨t, atoms, given, noValue, enumerated, lists, several⟩
    obtain ⟨key, -, decodes⟩ := decodes_of_decode decoded
    have kind : c.kind = .enumeration := by
      rw [known.kind_eq given, ColumnType.columnKind, noValue]
      simp [Option.isSome_iff_ne_none.mpr enumerated]
    exact absurd (decodes.length_le kind lists) (Nat.not_le.mpr several)
  · intro fits
    cases legal with
    | @named type a _ kind bare lists held =>
      obtain ⟨s, decoded⟩ := AtomicType.exists_decode?_iff.mpr held
      exact ⟨_, decode_of_decodes (by rw [keyType, kind])
        (.scalar (by simp [kind]) (by simp [kind]) lists decoded)⟩
    | @elements t atoms _ given noValue lists admitted allowed =>
      have single : t.key.enumeration ≠ none → atoms.length ≤ 1 := by
        intro enumerated
        by_contra several
        exact fits ⟨t, atoms, given, noValue, enumerated, lists, Nat.not_le.mp several⟩
      obtain ⟨v, decodes⟩ :=
        exists_decodes_elements known given noValue lists admitted allowed single
      exact ⟨v, decode_of_decodes (keyType_of_full (known.kind_eq given) given) decodes⟩
    | entries given value held =>
      obtain ⟨v, decodes⟩ := exists_decodes_entries known given value held
      exact ⟨v, decode_of_decodes (keyType_of_full (known.kind_eq given) given) decodes⟩

end ColumnSchema

/-! ## An example -/

namespace Sample

/-- The protocols that a switch says it speaks. -/
def spoken (names : List String) : Datum := .set (names.map .string)

theorem spoken_legal {names : List String}
    (listed : ∀ name ∈ names, name = "OpenFlow10" ∨ name = "OpenFlow13") :
    protocols.Legal (spoken names) := by
  refine .elements rfl rfl (.set _) (fun a member => ?_) ⟨Int.natCast_nonneg _, ?_⟩
  · obtain ⟨name, named, rfl⟩ := List.mem_map.mp member
    refine ⟨.string name, fun values given => ?_⟩
    cases given
    rcases listed name named with rfl | rfl
    · exact List.mem_cons_self
    · exact List.mem_cons_of_mem _ List.mem_cons_self
  · exact fun limited => absurd rfl limited

end Sample

namespace ColumnSchema

/-- A switch that speaks one protocol is understood, and one that speaks two is not. -/
theorem decode_legal_iff_protocols :
    Sample.protocols.Legal (Sample.spoken ["OpenFlow13"])
      ∧ (∃ v, Sample.protocols.decode (Sample.spoken ["OpenFlow13"]) = .ok v)
      ∧ Sample.protocols.Legal (Sample.spoken ["OpenFlow10", "OpenFlow13"])
      ∧ ¬ ∃ v, Sample.protocols.decode (Sample.spoken ["OpenFlow10", "OpenFlow13"]) = .ok v := by
  have resolved : ColumnType.resolve Sample.protocolsType =
      .ok (Sample.protocols.kind, Sample.protocols.type?) := rfl
  have one : Sample.protocols.Legal (Sample.spoken ["OpenFlow13"]) :=
    Sample.spoken_legal (by simp)
  have two : Sample.protocols.Legal (Sample.spoken ["OpenFlow10", "OpenFlow13"]) :=
    Sample.spoken_legal (by simp)
  refine ⟨one, (decode_legal_iff resolved one).mpr ?_, two, fun decoded => ?_⟩
  · rintro ⟨_, atoms, -, -, -, lists, several⟩
    cases lists
    exact absurd several (by decide)
  · exact (decode_legal_iff resolved two).mp decoded
      ⟨_, _, rfl, rfl, by simp, .set _, by decide⟩

/-- Two values of the enumeration are legal in a column for any number of them, but the column takes
a single one. -/
theorem legal_protocols_refused :
    ColumnType.resolve Sample.protocolsType =
        .ok (Sample.protocols.kind, Sample.protocols.type?)
      ∧ Sample.protocols.Legal (.set [.string "OpenFlow10", .string "OpenFlow13"])
      ∧ Sample.protocols.valueType = .ok (.scalar .string)
      ∧ Sample.protocols.decode (.set [.string "OpenFlow10", .string "OpenFlow13"]) =
        .error (.unexpectedDatum "protocols" (.element .string)
          (.set [.string "OpenFlow10", .string "OpenFlow13"])) :=
  ⟨rfl, @Sample.spoken_legal ["OpenFlow10", "OpenFlow13"] (by simp), rfl, rfl⟩

end ColumnSchema

end TableReplica
