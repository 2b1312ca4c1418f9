import TableReplica.Proofs.Value.Conversion

/-!
# What columns decode

The data that a column decodes, with the values that it makes of them, as a relation with one rule
for each form in which a value may travel (`ColumnSchema.decode_eq_ok_iff`). Values that are decoded
are of the type of the column, so they can be encoded again (`ColumnSchema.Decodes.exists_encode`).
-/

namespace TableReplica

/-- The elements that a datum lists: a set lists its own, and an atom stands for the set of it. -/
inductive Datum.Lists : Datum → List Atom → Prop
  | set (atoms : List Atom) : Lists (.set atoms) atoms
  | atom (a : Atom) : Lists (.atom a) [a]

theorem Datum.lists_iff {datum : Datum} {atoms : List Atom} :
    datum.Lists atoms ↔ datum.elements? = some atoms := by
  constructor
  · intro lists
    cases lists <;> rfl
  · intro elements
    cases datum with
    | set _ =>
      cases elements
      exact .set atoms
    | atom a =>
      cases elements
      exact .atom a
    | map _ => cases elements

/-! ## Elements -/

theorem AtomicType.type_of_decode? {type : AtomicType} {a : Atom} {s : Scalar}
    (decoded : type.decode? a = some s) : s.type = .ofAtomic type := by
  cases type <;> cases a <;> cases decoded <;> rfl

theorem ScalarType.type_default (type : ScalarType) : type.default.type = type := by
  cases type <;> rfl

theorem forall_mem_of_forall₂ {α β : Type} {R : α → β → Prop} {P : β → Prop}
    (image : ∀ a b, R a b → P b) {l : List α} {r : List β} (each : List.Forall₂ R l r) :
    ∀ b ∈ r, P b := by
  induction each with
  | nil => simp
  | cons first _ ih => exact List.forall_mem_cons.mpr ⟨image _ _ first, ih⟩

namespace ColumnSchema

variable {c : ColumnSchema} {key : AtomicType} {datum : Datum} {value : Value}

theorem decodeAtom_eq_ok_iff {type : AtomicType} {a : Atom} {s : Scalar} :
    c.decodeAtom type a = .ok s ↔ type.decode? a = some s := by
  rw [decodeAtom]
  cases type.decode? a <;> simp

theorem decodeEntry_eq_ok_iff {mapped : AtomicType} {entry : Atom × Atom} {pair : Scalar × Scalar} :
    c.decodeEntry key mapped entry = .ok pair ↔
      key.decode? entry.1 = some pair.1 ∧ mapped.decode? entry.2 = some pair.2 := by
  rw [decodeEntry, Except.bind_eq_ok_iff, ← decodeAtom_eq_ok_iff (c := c),
    ← decodeAtom_eq_ok_iff (c := c)]
  constructor
  · rintro ⟨k, first, rest⟩
    obtain ⟨v, second, done⟩ := Except.bind_eq_ok_iff.mp rest
    cases done
    exact ⟨first, second⟩
  · rintro ⟨first, second⟩
    exact ⟨pair.1, first, Except.bind_eq_ok_iff.mpr ⟨pair.2, second, rfl⟩⟩

/-! ## Columns -/

/-- How a column whose elements or keys are of an atomic type decodes a datum. -/
inductive Decodes (c : ColumnSchema) (key : AtomicType) : Datum → Value → Prop
  | set {datum : Datum} {atoms : List Atom} {elements : List Scalar} (kind : c.kind = .set)
      (lists : datum.Lists atoms)
      (each : List.Forall₂ (fun a s => key.decode? a = some s) atoms elements) :
      Decodes c key datum (.set elements)
  | map {entries : List (Atom × Atom)} {pairs : List (Scalar × Scalar)} {mapped : AtomicType}
      (kind : c.kind = .map) (known : c.mappedType = .ok mapped)
      (each : List.Forall₂ (fun entry pair => key.decode? entry.1 = some pair.1
        ∧ mapped.decode? entry.2 = some pair.2) entries pairs) :
      Decodes c key (.map entries) (.map (.ofList pairs))
  | scalar {datum : Datum} {a : Atom} {s : Scalar} (noSet : c.kind ≠ .set) (noMap : c.kind ≠ .map)
      (lists : datum.Lists [a]) (decoded : key.decode? a = some s) : Decodes c key datum (.scalar s)
  /-- The empty set is an unset enumeration. -/
  | unset (kind : c.kind = .enumeration) :
      Decodes c key (.set []) (.scalar (ScalarType.ofAtomic key).default)

theorem decodes_of_decode (decoded : c.decode datum = .ok value) :
    ∃ key, c.keyType = .ok key ∧ c.Decodes key datum value := by
  obtain ⟨key, keyed, decoded⟩ := Except.bind_eq_ok_iff.mp decoded
  refine ⟨key, keyed, ?_⟩
  cases kind : c.kind with
  | set =>
    rw [kind] at decoded
    dsimp only at decoded
    split at decoded
    next atoms listed =>
      obtain ⟨elements, each, made⟩ := Except.bind_eq_ok_iff.mp decoded
      cases made
      refine .set kind (Datum.lists_iff.mpr listed) ((Except.mapM_eq_ok_iff.mp each).imp ?_)
      exact fun _ _ => decodeAtom_eq_ok_iff.mp
    next => cases decoded
  | map =>
    rw [kind] at decoded
    dsimp only at decoded
    split at decoded
    next entries =>
      obtain ⟨mapped, known, decoded⟩ := Except.bind_eq_ok_iff.mp decoded
      obtain ⟨pairs, each, made⟩ := Except.bind_eq_ok_iff.mp decoded
      cases made
      refine .map kind known ((Except.mapM_eq_ok_iff.mp each).imp ?_)
      exact fun _ _ => decodeEntry_eq_ok_iff.mp
    next => cases decoded
  | atomic _ | enumeration =>
    have noSet : c.kind ≠ .set := by simp [kind]
    have noMap : c.kind ≠ .map := by simp [kind]
    rw [kind] at decoded
    dsimp only at decoded
    split at decoded
    next =>
      obtain ⟨s, each, made⟩ := Except.bind_eq_ok_iff.mp decoded
      cases made
      exact .scalar noSet noMap (.atom _) (decodeAtom_eq_ok_iff.mp each)
    next =>
      obtain ⟨s, each, made⟩ := Except.bind_eq_ok_iff.mp decoded
      cases made
      exact .scalar noSet noMap (.set [_]) (decodeAtom_eq_ok_iff.mp each)
    next =>
      split at decoded
      next isEnumeration =>
        cases decoded
        exact .unset (kind.trans isEnumeration)
      next => cases decoded
    next => cases decoded

theorem decode_of_decodes (keyed : c.keyType = .ok key) (decodes : c.Decodes key datum value) :
    c.decode datum = .ok value := by
  refine Except.bind_eq_ok_iff.mpr ⟨key, keyed, ?_⟩
  cases decodes with
  | set kind lists each =>
    rw [kind, Datum.lists_iff.mp lists]
    refine Except.bind_eq_ok_iff.mpr ⟨_, Except.mapM_eq_ok_iff.mpr (each.imp ?_), rfl⟩
    exact fun _ _ => decodeAtom_eq_ok_iff.mpr
  | map kind known each =>
    rw [kind]
    refine Except.bind_eq_ok_iff.mpr ⟨_, known,
      Except.bind_eq_ok_iff.mpr ⟨_, Except.mapM_eq_ok_iff.mpr (each.imp ?_), rfl⟩⟩
    exact fun _ _ => decodeEntry_eq_ok_iff.mpr
  | scalar noSet noMap lists decoded =>
    have single : c.decodeAtom key _ = .ok _ := decodeAtom_eq_ok_iff.mpr decoded
    cases kind : c.kind with
    | set => exact absurd kind noSet
    | map => exact absurd kind noMap
    | atomic _ | enumeration => cases lists <;> exact Except.bind_eq_ok_iff.mpr ⟨_, single, rfl⟩
  | unset kind => rw [kind]; rfl

/-- A column decodes a datum exactly by one of the rules. -/
theorem decode_eq_ok_iff :
    c.decode datum = .ok value ↔ ∃ key, c.keyType = .ok key ∧ c.Decodes key datum value := by
  constructor
  · exact decodes_of_decode
  · rintro ⟨key, keyed, decodes⟩
    exact decode_of_decodes keyed decodes

/-- What a column decodes is of its type. -/
theorem Decodes.conforms (keyed : c.keyType = .ok key) (decodes : c.Decodes key datum value) :
    ∃ type, c.valueType = .ok type ∧ value.conforms type = true := by
  cases decodes with
  | @set _ _ elements kind lists each =>
    refine ⟨.set (.ofAtomic key), valueType_eq_ok_iff.mpr ⟨key, keyed, by rw [kind]⟩, ?_⟩
    have typed : ∀ s ∈ elements, s.type = .ofAtomic key :=
      forall_mem_of_forall₂ (fun _ _ decoded => AtomicType.type_of_decode? decoded) each
    exact List.all_eq_true.mpr fun s member => beq_iff_eq.mpr (typed s member)
  | @map _ pairs mapped kind known each =>
    refine ⟨.map (.ofAtomic key) (.ofAtomic mapped),
      valueType_eq_ok_iff.mpr ⟨key, keyed, by rw [kind]; exact ⟨mapped, known, rfl⟩⟩, ?_⟩
    refine List.all_eq_true.mpr fun pair member => ?_
    rw [Bool.and_eq_true, beq_iff_eq, beq_iff_eq]
    have typed : ∀ pair ∈ pairs, pair.1.type = .ofAtomic key ∧ pair.2.type = .ofAtomic mapped :=
      forall_mem_of_forall₂ (fun _ _ both => ⟨AtomicType.type_of_decode? both.1,
        AtomicType.type_of_decode? both.2⟩) each
    exact typed pair (SortedMap.mem_of_mem_ofList member)
  | scalar noSet noMap lists decoded =>
    refine ⟨.scalar (.ofAtomic key), valueType_eq_ok_iff.mpr ⟨key, keyed, ?_⟩,
      beq_iff_eq.mpr (AtomicType.type_of_decode? decoded)⟩
    cases kind : c.kind with
    | set => exact absurd kind noSet
    | map => exact absurd kind noMap
    | atomic _ | enumeration => rfl
  | unset kind =>
    exact ⟨.scalar (.ofAtomic key), valueType_eq_ok_iff.mpr ⟨key, keyed, by rw [kind]⟩,
      beq_iff_eq.mpr (ScalarType.type_default _)⟩

/-- A set is decoded from a datum that lists as many elements. -/
theorem lists_of_decode {elements : List Scalar} (decoded : c.decode datum = .ok (.set elements)) :
    ∃ atoms, datum.Lists atoms ∧ elements.length = atoms.length := by
  obtain ⟨key, -, decodes⟩ := decodes_of_decode decoded
  cases decodes with
  | set kind lists each => exact ⟨_, lists, each.length_eq.symm⟩

/-- What a column has decoded it can encode. -/
theorem Decodes.exists_encode (keyed : c.keyType = .ok key) (decodes : c.Decodes key datum value) :
    ∃ datum', c.encode value = .ok datum' := by
  obtain ⟨type, typed, conforming⟩ := decodes.conforms keyed
  exact ColumnSchema.exists_encode typed conforming

end ColumnSchema

end TableReplica
