import TableReplica.Proofs.Value.Decoding

/-!
# What data say

One value of a column may travel in several forms: a set of one element also as the element, a whole
real also as an integer, a reference to a row under either of two tags, and a map with entries that
later ones override. What is decoded and encoded again still says the same
(`ColumnSchema.same_value_of_decode`), with one exception: a column of an enumeration has no value
that says as little as the empty set.
-/

namespace TableReplica

/-! ## Atoms -/

namespace AtomicType

variable {type : AtomicType} {a : Atom} {s : Scalar}

/-- The one form of an atom among those in which an element of an atomic type may travel. -/
def plain : AtomicType → Atom → Atom
  | .real, .integer i => .real (.ofInt i.toInt)
  | .uuid, .namedUuid name => .uuid name
  | _, a => a

/-- The atom of a scalar in that form. -/
def carrier (type : AtomicType) (s : Scalar) : Atom := type.plain (type.encode s)

theorem carrier_of_decode? (decoded : type.decode? a = some s) : type.carrier s = type.plain a := by
  cases type <;> cases a <;> cases decoded
  case uuid.uuid.refl id | uuid.namedUuid.refl id =>
    rw [carrier, encode, if_pos rfl, Atom.reference]
    split <;> rfl
  all_goals rfl

theorem decode?_plain (type : AtomicType) (a : Atom) :
    type.decode? (type.plain a) = type.decode? a := by
  cases type <;> cases a <;> rfl

/-- Scalars of one type differ in their atoms. -/
theorem carrier_inj {s' : Scalar} (typed : s.type = .ofAtomic type)
    (typed' : s'.type = .ofAtomic type) (same : type.carrier s = type.carrier s') : s = s' := by
  have decoded := congrArg type.decode? same
  rw [carrier, carrier, decode?_plain, decode?_plain, type.decode?_encode typed,
    type.decode?_encode typed'] at decoded
  exact Option.some.inj decoded

end AtomicType

/-! ## Assignments -/

/-- What the entries of a map say of a key; of several with one key the last counts. -/
def assigned? (key mapped : AtomicType) (entries : List (Atom × Atom)) (k : Atom) : Option Atom :=
  (entries.map fun e => (key.plain e.1, mapped.plain e.2)).reverse.lookup k

theorem lookup_map_pairs {α β γ δ : Type} [DecidableEq α] [DecidableEq γ] {f : α → γ} {g : β → δ}
    {l : List (α × β)} {a : α} (apart : ∀ e ∈ l, f a = f e.1 → a = e.1) :
    (l.map fun e => (f e.1, g e.2)).lookup (f a) = (l.lookup a).map g := by
  induction l with
  | nil => rfl
  | cons head rest ih =>
    rw [List.map_cons, List.lookup_cons, List.lookup_cons]
    by_cases same : a = head.1
    · rw [beq_iff_eq.mpr same, beq_iff_eq.mpr (congrArg f same)]
      rfl
    · have differ : f a ≠ f head.1 := fun image => same (apart head List.mem_cons_self image)
      rw [beq_eq_false_iff_ne.mpr same, beq_eq_false_iff_ne.mpr differ]
      exact ih fun e member => apart e (List.mem_cons_of_mem head member)

section Assigned

variable {key mapped : AtomicType} {pairs pairs' : List (Scalar × Scalar)} {k : Atom}

theorem assigned?_map_encode :
    assigned? key mapped (pairs.map fun e => (key.encode e.1, mapped.encode e.2)) k =
      (pairs.reverse.map fun e => (key.carrier e.1, mapped.carrier e.2)).lookup k := by
  rw [assigned?, List.map_map, List.map_reverse]
  rfl

theorem assigned?_carrier {s : Scalar} (typed : ∀ e ∈ pairs, e.1.type = .ofAtomic key)
    (own : s.type = .ofAtomic key) :
    assigned? key mapped (pairs.map fun e => (key.encode e.1, mapped.encode e.2)) (key.carrier s) =
      (pairs.reverse.lookup s).map mapped.carrier := by
  rw [assigned?_map_encode]
  apply lookup_map_pairs
  intro e member same
  exact AtomicType.carrier_inj own (typed e (List.mem_reverse.mp member)) same

theorem assigned?_of_foreign (typed : ∀ e ∈ pairs, e.1.type = .ofAtomic key)
    (foreign : ¬ ∃ s : Scalar, s.type = .ofAtomic key ∧ key.carrier s = k) :
    assigned? key mapped (pairs.map fun e => (key.encode e.1, mapped.encode e.2)) k = none := by
  rw [assigned?_map_encode, List.lookup_eq_none_iff]
  intro entry member
  obtain ⟨e, listed, rfl⟩ := List.mem_map.mp member
  rw [bne_iff_ne]
  intro carried
  exact foreign ⟨e.1, typed e (List.mem_reverse.mp listed), carried.symm⟩

/-- Pairs with the same last value under each key make the same assignment. -/
theorem assigned?_congr (typed : ∀ e ∈ pairs, e.1.type = .ofAtomic key)
    (typed' : ∀ e ∈ pairs', e.1.type = .ofAtomic key)
    (same : ∀ s, pairs.reverse.lookup s = pairs'.reverse.lookup s) :
    assigned? key mapped (pairs.map fun e => (key.encode e.1, mapped.encode e.2)) k =
      assigned? key mapped (pairs'.map fun e => (key.encode e.1, mapped.encode e.2)) k := by
  -- An atom that carries no scalar of the type of the keys is a key of neither.
  by_cases own : ∃ s : Scalar, s.type = .ofAtomic key ∧ key.carrier s = k
  · obtain ⟨s, ofKey, rfl⟩ := own
    rw [assigned?_carrier typed ofKey, assigned?_carrier typed' ofKey, same]
  · rw [assigned?_of_foreign typed own, assigned?_of_foreign typed' own]

end Assigned

/-! ## Decoded elements -/

section Decoded

variable {key mapped : AtomicType}

theorem map_eq_map_of_forall₂ {α β γ : Type} {f : α → γ} {g : β → γ} {l : List α} {r : List β}
    (each : List.Forall₂ (fun a b => f a = g b) l r) : l.map f = r.map g := by
  have images : List.Forall₂ Eq (l.map f) (r.map g) :=
    List.forall₂_map_left_iff.mpr (List.forall₂_map_right_iff.mpr each)
  rwa [List.forall₂_eq_eq_eq] at images

theorem map_plain_of_decoded {atoms : List Atom} {elements : List Scalar}
    (each : List.Forall₂ (fun a s => key.decode? a = some s) atoms elements) :
    atoms.map key.plain = elements.map key.carrier := by
  refine map_eq_map_of_forall₂ (each.imp fun a s decoded => ?_)
  exact (AtomicType.carrier_of_decode? decoded).symm

/-- Entries assign what the map that is decoded from them assigns. -/
theorem assigned?_of_decoded {entries : List (Atom × Atom)} {pairs : List (Scalar × Scalar)}
    (each : List.Forall₂ (fun entry pair => key.decode? entry.1 = some pair.1
      ∧ mapped.decode? entry.2 = some pair.2) entries pairs) (k : Atom) :
    assigned? key mapped entries k =
      assigned? key mapped ((SortedMap.ofList pairs).toList.map fun e =>
        (key.encode e.1, mapped.encode e.2)) k := by
  have carried : entries.map (fun e => (key.plain e.1, mapped.plain e.2)) =
      pairs.map fun e => (key.carrier e.1, mapped.carrier e.2) := by
    refine map_eq_map_of_forall₂ (each.imp fun entry pair both => ?_)
    rw [AtomicType.carrier_of_decode? both.1, AtomicType.carrier_of_decode? both.2]
  have typed : ∀ e ∈ pairs, e.1.type = .ofAtomic key :=
    forall_mem_of_forall₂ (fun _ _ both => AtomicType.type_of_decode? both.1) each
  have kept : ∀ e ∈ (SortedMap.ofList pairs).toList, e.1.type = .ofAtomic key :=
    fun e member => typed e (SortedMap.mem_of_mem_ofList member)
  -- What counts in a list of pairs is what the map of the list holds, and its listing is one too.
  have agree : ∀ s, pairs.reverse.lookup s =
      (SortedMap.ofList pairs).toList.reverse.lookup s := by
    intro s
    rw [← SortedMap.get?_ofList, ← SortedMap.get?_ofList, SortedMap.ofList_toList]
  rw [← assigned?_congr typed kept agree, assigned?_map_encode, assigned?, carried,
    List.map_reverse]

end Decoded

/-! ## Columns -/

namespace ColumnSchema

/-- Whether two data say the same of a column: they list the same elements in the same order, or
assign the same values to the same keys. -/
inductive SameValue (c : ColumnSchema) : Datum → Datum → Prop
  | elements {key : AtomicType} {datum datum' : Datum} {atoms atoms' : List Atom}
      (noMap : c.kind ≠ .map) (keyed : c.keyType = .ok key) (lists : datum.Lists atoms)
      (lists' : datum'.Lists atoms') (same : atoms.map key.plain = atoms'.map key.plain) :
      SameValue c datum datum'
  | entries {key mapped : AtomicType} {entries entries' : List (Atom × Atom)}
      (isMap : c.kind = .map) (keyed : c.keyType = .ok key) (known : c.mappedType = .ok mapped)
      (same : ∀ k, assigned? key mapped entries k = assigned? key mapped entries' k) :
      SameValue c (.map entries) (.map entries')

variable {c : ColumnSchema} {key : AtomicType} {datum datum' : Datum} {value : Value}

theorem not_sameValue_nil_atom (a : Atom) : ¬ c.SameValue (.set []) (.atom a) := by
  intro same
  cases same with
  | elements _ _ lists lists' same =>
    cases lists
    cases lists'
    cases same

/-- What the datum of a decoded value says, rule by rule. -/
theorem Decodes.same_value (keyed : c.keyType = .ok key) (decodes : c.Decodes key datum value)
    (encoded : c.encode value = .ok datum') :
    c.SameValue datum datum' ↔ ¬ (c.kind = .enumeration ∧ datum = .set []) := by
  obtain ⟨type, key', -, -, keyed', shape⟩ := eq_of_encode encoded
  rw [keyed] at keyed'
  cases keyed'
  cases decodes with
  | @set _ atoms elements kind lists each =>
    subst shape
    have same : atoms.map key.plain = (elements.map key.encode).map key.plain := by
      rw [map_plain_of_decoded each, List.map_map]
      rfl
    have agree : c.SameValue datum (.set (elements.map key.encode)) :=
      .elements (by simp [kind]) keyed lists (.set _) same
    simp [agree, kind]
  | map kind known each =>
    obtain ⟨mapped', known', rfl⟩ := shape
    rw [known] at known'
    cases known'
    have agree : c.SameValue _ _ := .entries kind keyed known (assigned?_of_decoded each)
    simp [agree, kind]
  | @scalar _ a s noSet noMap lists decoded =>
    subst shape
    have same : [a].map key.plain = [key.encode s].map key.plain :=
      congrArg (fun a => [a]) (AtomicType.carrier_of_decode? decoded).symm
    have agree : c.SameValue datum (.atom (key.encode s)) :=
      .elements noMap keyed lists (.atom _) same
    refine iff_of_true agree fun unset => ?_
    rw [unset.2] at lists
    cases lists
  | unset kind =>
    subst shape
    exact iff_of_false (not_sameValue_nil_atom _) (not_not_intro ⟨kind, rfl⟩)

theorem Decodes.eq_default (decodes : c.Decodes key (.set []) value)
    (kind : c.kind = .enumeration) : value = .scalar (ScalarType.ofAtomic key).default := by
  cases decodes with
  | set isSet => rw [kind] at isSet; cases isSet
  | scalar _ _ lists => cases lists
  | unset => rfl

/-- What a column has decoded it can encode again, and the new datum says the same as the old one,
except where this was the empty set and the column is one of an enumeration. There the value and the
new datum are the element that stands for an unset column. -/
theorem same_value_of_decode (decoded : c.decode datum = .ok value) :
    ∃ datum', c.encode value = .ok datum'
      ∧ (c.SameValue datum datum' ↔ ¬ (c.kind = .enumeration ∧ datum = .set []))
      ∧ (c.kind = .enumeration → datum = .set [] →
        ∃ key, c.keyType = .ok key ∧ value = .scalar (ScalarType.ofAtomic key).default
          ∧ datum' = .atom (key.encode (ScalarType.ofAtomic key).default)) := by
  obtain ⟨key, keyed, decodes⟩ := decodes_of_decode decoded
  obtain ⟨datum', encoded⟩ := decodes.exists_encode keyed
  refine ⟨datum', encoded, decodes.same_value keyed encoded, ?_⟩
  rintro kind rfl
  have unset := decodes.eq_default kind
  subst unset
  obtain ⟨-, key', -, -, keyed', shape⟩ := eq_of_encode encoded
  rw [keyed] at keyed'
  cases keyed'
  exact ⟨key, keyed, rfl, shape⟩

end ColumnSchema

/-! ## An example -/

namespace Sample

/-- A datum of the column of rates, with one rate in two forms. -/
def measured : Datum :=
  .map [(.integer 1, .integer 5), (.real ⟨0x8000000000000000⟩, .integer (-3)),
    (.real ⟨0x3FF0000000000000⟩, .integer 7)]

/-- The datum in which it comes back: in order, and with one entry for each rate. -/
def settled : Datum :=
  .map [(.real ⟨0x8000000000000000⟩, .integer (-3)), (.real ⟨0x3FF0000000000000⟩, .integer 7)]

end Sample

namespace ColumnSchema

theorem same_value_of_decode_rates :
    ∃ value, Sample.rates.decode Sample.measured = .ok value
      ∧ Sample.rates.encode value = .ok Sample.settled
      ∧ Sample.rates.SameValue Sample.measured Sample.settled := by
  obtain ⟨value, decoded⟩ : ∃ value, Sample.rates.decode Sample.measured = .ok value := ⟨_, rfl⟩
  obtain ⟨datum', encoded, same, -⟩ := same_value_of_decode decoded
  have back : Sample.rates.encode value = .ok Sample.settled := by
    cases decoded
    rfl
  rw [back] at encoded
  cases encoded
  exact ⟨value, decoded, back, same.mpr fun unset => by cases unset.1⟩

/-- The empty set of protocols does not come back. -/
theorem unset_protocols_not_same_value :
    Sample.network.Parsed
      ∧ Sample.network.table? "Switch" = some Sample.switches
      ∧ Sample.switches.column? "protocols" = some Sample.protocols
      ∧ Sample.protocols.decode (.set []) = .ok (.scalar (.string ""))
      ∧ Sample.protocols.encode (.scalar (.string "")) = .ok (.atom (.string ""))
      ∧ ¬ Sample.protocols.SameValue (.set []) (.atom (.string "")) :=
  ⟨Sample.network_parsed, rfl, rfl, rfl, rfl, not_sameValue_nil_atom _⟩

end ColumnSchema

end TableReplica
