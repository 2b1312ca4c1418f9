import Mathlib.Data.List.Perm.Basic
import TableReplica.Proofs.Value.Meaning
import TableReplica.Proofs.Value.Soundness

/-!
# Entries of maps

What a map column makes of entries: it takes them if it can read every key and every value, and of
several entries whose keys are read as one key the last counts. Entries with different keys may
stand in any order, and the order in which a map is encoded is that of its keys
(`Schema.Parsed.decode_entries`).
-/

namespace TableReplica

/-- Whether an entry is read as a key and its value. -/
def ReadsEntry (key mapped : AtomicType) (entry : Atom × Atom) (pair : Scalar × Scalar) : Prop :=
  key.Reads entry.1 pair.1 ∧ mapped.Reads entry.2 pair.2

/-- Whether a map has under each key what the last of the entries with this key says, and nothing
else. -/
def LastCounts (key mapped : AtomicType) (entries : List (Atom × Atom))
    (m : SortedMap Scalar Scalar) : Prop :=
  ∀ k v, m.get? k = some v ↔ ∃ before entry after, entries = before ++ entry :: after
    ∧ ReadsEntry key mapped entry (k, v) ∧ ∀ later ∈ after, ¬ key.Reads later.1 k

/-- Whether entries are those of a map with each key before all greater ones. -/
def ListsInOrder (key mapped : AtomicType) (entries : List (Atom × Atom))
    (m : SortedMap Scalar Scalar) : Prop :=
  ∃ pairs : List (Scalar × Scalar), List.Forall₂ (ReadsEntry key mapped) entries pairs
    ∧ pairs.Pairwise (fun p p' => compare p.1 p'.1 = .lt)
    ∧ ∀ k v, (k, v) ∈ pairs ↔ m.get? k = some v

/-- Whether no two entries of a list have one key. -/
def DistinctKeys (key : AtomicType) (entries : List (Atom × Atom)) : Prop :=
  entries.Pairwise fun e e' => ∀ k, key.Reads e.1 k → ¬ key.Reads e'.1 k

/-- Whether entries are others in another order, where only entries with different keys have changed
places. -/
inductive Rearranges (key : AtomicType) : List (Atom × Atom) → List (Atom × Atom) → Prop
  | intro (before : List (Atom × Atom)) {entries entries' : List (Atom × Atom)}
    (after : List (Atom × Atom)) (perm : entries.Perm entries')
    (distinct : DistinctKeys key entries) :
    Rearranges key (before ++ entries ++ after) (before ++ entries' ++ after)

/-! ## Keys -/

namespace AtomicType

variable {type : AtomicType} {s : Scalar}

/-- An atom is read as one scalar only. -/
theorem Reads.reads_iff_eq {a : Atom} {s' : Scalar} (reads : type.Reads a s) :
    type.Reads a s' ↔ s = s' := by
  rw [reads_iff] at reads ⊢
  rw [reads, Option.some_inj]

theorem reads_uuid_iff {id : String} : type.Reads (.uuid id) s ↔ type.Reads (.namedUuid id) s := by
  rw [reads_iff, reads_iff]
  cases type <;> rfl

theorem reads_whole_iff {i : Int64} :
    AtomicType.real.Reads (.integer i) s ↔ AtomicType.real.Reads (.real (.ofInt i.toInt)) s := by
  rw [reads_iff, reads_iff]
  rfl

end AtomicType

/-! ## Reading entries -/

section Reading

variable {key mapped : AtomicType} {entries entries' : List (Atom × Atom)}
  {pairs : List (Scalar × Scalar)} {k : Scalar}

/-- Entries are read if each of their keys and values is. -/
theorem exists_readsEntries_iff : (∃ pairs, List.Forall₂ (ReadsEntry key mapped) entries pairs) ↔
    ∀ entry ∈ entries, (∃ k, key.Reads entry.1 k) ∧ ∃ v, mapped.Reads entry.2 v := by
  constructor
  · rintro ⟨pairs, each⟩
    have swapped : List.Forall₂ (flip (ReadsEntry key mapped)) pairs entries := .flip each
    exact forall_mem_of_forall₂ (fun p _ both => ⟨⟨p.1, both.1⟩, p.2, both.2⟩) swapped
  · intro each
    refine List.exists_forall₂ fun entry member => ?_
    obtain ⟨⟨k, first⟩, v, second⟩ := each entry member
    exact ⟨(k, v), first, second⟩

theorem absent_iff (each : List.Forall₂ (ReadsEntry key mapped) entries pairs) :
    (∀ p ∈ pairs, p.1 ≠ k) ↔ ∀ entry ∈ entries, ¬ key.Reads entry.1 k := by
  induction each with
  | nil => simp
  | cons reads _ ih =>
    rw [List.forall_mem_cons, List.forall_mem_cons, ih, ne_eq, reads.1.reads_iff_eq]

/-- In the map of what is read the last entry with a key counts. -/
theorem lastCounts_ofList (each : List.Forall₂ (ReadsEntry key mapped) entries pairs) :
    LastCounts key mapped entries (.ofList pairs) := by
  intro k v
  rw [SortedMap.get?_ofList_eq_some_iff]
  constructor
  · rintro ⟨before, after, rfl, absent⟩
    obtain ⟨front, _, rfl, -, back⟩ := List.forall₂_append_right_iff.mp each
    cases back with
    | cons reads later => exact ⟨front, _, _, rfl, reads, (absent_iff later).mp absent⟩
  · rintro ⟨before, entry, after, rfl, reads, absent⟩
    obtain ⟨front, _, rfl, -, back⟩ := List.forall₂_append_left_iff.mp each
    cases back with
    | @cons _ p _ _ reads' later =>
      have same : p = (k, v) :=
        Prod.ext (reads'.1.reads_iff_eq.mp reads.1) (reads'.2.reads_iff_eq.mp reads.2)
      exact ⟨front, _, by rw [same], (absent_iff later).mpr absent⟩

/-! ## The order of entries -/

theorem DistinctKeys.pairwise (distinct : DistinctKeys key entries)
    (each : List.Forall₂ (ReadsEntry key mapped) entries pairs) :
    pairs.Pairwise fun p p' => p.1 ≠ p'.1 := by
  induction each with
  | nil => exact .nil
  | @cons _ p _ _ reads later ih =>
    obtain ⟨apart, distinct⟩ := List.pairwise_cons.mp distinct
    have absent := (absent_iff later).mpr fun entry member => apart entry member p.1 reads.1
    exact .cons (fun p' member => (absent p' member).symm) (ih distinct)

theorem DistinctKeys.perm (distinct : DistinctKeys key entries) (perm : entries.Perm entries') :
    DistinctKeys key entries' := by
  refine (perm.pairwise_iff ?_).mp distinct
  intro e e' apart k reads' reads
  exact apart k reads reads'

theorem Rearranges.symm (rearranges : Rearranges key entries entries') :
    Rearranges key entries' entries := by
  cases rearranges with
  | intro before after perm distinct => exact .intro before after perm.symm (distinct.perm perm)

/-- Rearranged entries are read as the same map. -/
theorem Rearranges.exists_ofList_eq (rearranges : Rearranges key entries entries')
    (each : List.Forall₂ (ReadsEntry key mapped) entries pairs) :
    ∃ pairs', List.Forall₂ (ReadsEntry key mapped) entries' pairs'
      ∧ SortedMap.ofList pairs = SortedMap.ofList pairs' := by
  cases rearranges with
  | intro before after perm distinct =>
    obtain ⟨_, back, rfl, first, later⟩ := List.forall₂_append_left_iff.mp each
    obtain ⟨front, moved, rfl, earlier, middle⟩ := List.forall₂_append_left_iff.mp first
    obtain ⟨moved', middle', perm'⟩ := List.perm_comp_forall₂ perm.symm middle
    refine ⟨front ++ moved' ++ back, ?_, ?_⟩
    · exact List.rel_append (List.rel_append earlier middle') later
    · exact SortedMap.ofList_perm perm'.symm (distinct.pairwise middle) front back

/-- The encoded entries of a map list it in the order of its keys. -/
theorem listsInOrder_encode {m : SortedMap Scalar Scalar}
    (typed : ∀ k v, m.get? k = some v → k.type = .ofAtomic key ∧ v.type = .ofAtomic mapped) :
    ListsInOrder key mapped (m.toList.map fun e => (key.encode e.1, mapped.encode e.2)) m := by
  refine ⟨m.toList, ?_, m.ascending, fun k v => SortedMap.get?_eq_some_iff.symm⟩
  rw [List.forall₂_map_left_iff, List.forall₂_same]
  intro e member
  obtain ⟨ofKey, ofMapped⟩ := typed e.1 e.2 (SortedMap.get?_eq_some_iff.mpr member)
  exact ⟨AtomicType.reads_iff.mpr (key.decode?_encode ofKey),
    AtomicType.reads_iff.mpr (mapped.decode?_encode ofMapped)⟩

end Reading

/-! ## Columns -/

namespace ColumnSchema

variable {c : ColumnSchema} {key mapped : AtomicType} {entries entries' : List (Atom × Atom)}
  {value : Value}

/-- A map column reads entries as the map of what they are read as one by one. -/
theorem decode_map_iff (isMap : c.kind = .map) (keyed : c.keyType = .ok key)
    (known : c.mappedType = .ok mapped) : c.decode (.map entries) = .ok value ↔
      ∃ pairs, List.Forall₂ (ReadsEntry key mapped) entries pairs
        ∧ value = .map (.ofList pairs) := by
  rw [decode_eq_ok_iff]
  constructor
  · rintro ⟨key', keyed', decodes⟩
    rw [keyed] at keyed'
    cases keyed'
    cases decodes with
    | @map _ pairs mapped' _ known' each =>
      rw [known] at known'
      cases known'
      refine ⟨pairs, each.imp fun _ _ both => ?_, rfl⟩
      exact ⟨AtomicType.reads_iff.mpr both.1, AtomicType.reads_iff.mpr both.2⟩
    | set isSet => rw [isMap] at isSet; cases isSet
    | scalar _ noMap => exact absurd isMap noMap
  · rintro ⟨pairs, each, rfl⟩
    refine ⟨key, keyed, .map isMap known (each.imp fun _ _ both => ?_)⟩
    exact ⟨AtomicType.reads_iff.mp both.1, AtomicType.reads_iff.mp both.2⟩

/-- What a map column makes of entries, and what it makes of them when it encodes it again. -/
theorem exists_of_decode_map (isMap : c.kind = .map) (keyed : c.keyType = .ok key)
    (known : c.mappedType = .ok mapped) (decoded : c.decode (.map entries) = .ok value) :
    ∃ m, value = .map m ∧ LastCounts key mapped entries m
      ∧ ∃ wire, c.encode value = .ok (.map wire) ∧ ListsInOrder key mapped wire m := by
  obtain ⟨pairs, each, rfl⟩ := (decode_map_iff isMap keyed known).mp decoded
  have counts := lastCounts_ofList each
  obtain ⟨datum, encoded⟩ : ∃ datum, c.encode (.map (.ofList pairs)) = .ok datum := by
    obtain ⟨key', keyed', decodes⟩ := decodes_of_decode decoded
    exact decodes.exists_encode keyed'
  obtain ⟨-, key', -, -, keyed', mapped', known', rfl⟩ := eq_of_encode encoded
  rw [keyed] at keyed'
  rw [known] at known'
  cases keyed'
  cases known'
  refine ⟨_, rfl, counts, _, encoded, listsInOrder_encode fun k v found => ?_⟩
  obtain ⟨_, _, _, _, reads, _⟩ := (counts k v).mp found
  exact ⟨AtomicType.type_of_decode? (AtomicType.reads_iff.mp reads.1),
    AtomicType.type_of_decode? (AtomicType.reads_iff.mp reads.2)⟩

/-- Rearranged entries make no other value. -/
theorem decode_map_of_rearranges (isMap : c.kind = .map) (keyed : c.keyType = .ok key)
    (known : c.mappedType = .ok mapped) (rearranges : Rearranges key entries entries')
    (decoded : c.decode (.map entries) = .ok value) : c.decode (.map entries') = .ok value := by
  obtain ⟨pairs, each, rfl⟩ := (decode_map_iff isMap keyed known).mp decoded
  obtain ⟨pairs', each', same⟩ := rearranges.exists_ofList_eq each
  exact (decode_map_iff isMap keyed known).mpr ⟨pairs', each', by rw [same]⟩

end ColumnSchema

/-- A map column of a schema that has been read takes entries exactly if it can read each of their
keys and values. The last entry with a key counts, where a reference has one key under both of its
tags, and an integer has that of the real that it is read as. The value is encoded in the order of
its keys, and rearranging entries changes neither the value nor its datum. -/
theorem Schema.Parsed.decode_entries {s : Schema} (parsed : s.Parsed) {table column : String}
    {t : TableSchema} {c : ColumnSchema} (present : s.table? table = some t)
    (listed : t.column? column = some c) (isMap : c.kind = .map) :
    ∃ key mapped, c.keyType = .ok key ∧ c.mappedType = .ok mapped
      ∧ (∀ id k, key.Reads (.uuid id) k ↔ key.Reads (.namedUuid id) k)
      ∧ (key = .real → ∀ i k, key.Reads (.integer i) k ↔ key.Reads (.real (.ofInt i.toInt)) k)
      ∧ ∀ entries, ((∃ value, c.decode (.map entries) = .ok value) ↔
          ∀ entry ∈ entries, (∃ k, key.Reads entry.1 k) ∧ ∃ v, mapped.Reads entry.2 v)
        ∧ (∀ value, c.decode (.map entries) = .ok value →
          ∃ m, value = .map m ∧ LastCounts key mapped entries m
            ∧ ∃ wire, c.encode value = .ok (.map wire) ∧ ListsInOrder key mapped wire m)
        ∧ ∀ entries', Rearranges key entries entries' →
          (∀ value, c.decode (.map entries) = .ok value ↔ c.decode (.map entries') = .ok value)
            ∧ ∀ datum, c.decode (.map entries) >>= c.encode = .ok datum ↔
              c.decode (.map entries') >>= c.encode = .ok datum := by
  have resolved := parsed.resolved present listed
  obtain ⟨key, keyed⟩ := resolved.exists_keyType
  obtain ⟨mapped, known⟩ := resolved.exists_mappedType isMap
  refine ⟨key, mapped, keyed, known, fun id k => AtomicType.reads_uuid_iff, ?_,
    fun entries => ⟨?_, ?_, ?_⟩⟩
  · rintro rfl i k
    exact AtomicType.reads_whole_iff
  · rw [← exists_readsEntries_iff]
    simp only [ColumnSchema.decode_map_iff isMap keyed known]
    constructor
    · rintro ⟨_, pairs, each, -⟩
      exact ⟨pairs, each⟩
    · rintro ⟨pairs, each⟩
      exact ⟨_, pairs, each, rfl⟩
  · intro value decoded
    exact ColumnSchema.exists_of_decode_map isMap keyed known decoded
  · intro entries' rearranges
    have same : ∀ value, c.decode (.map entries) = .ok value ↔
        c.decode (.map entries') = .ok value := fun value =>
      ⟨ColumnSchema.decode_map_of_rearranges isMap keyed known rearranges,
        ColumnSchema.decode_map_of_rearranges isMap keyed known rearranges.symm⟩
    refine ⟨same, fun datum => ?_⟩
    rw [Except.bind_eq_ok_iff, Except.bind_eq_ok_iff]
    exact exists_congr fun value => and_congr_left fun _ => same value

namespace Sample

/-- The measured rates, of which two with different keys have changed places. -/
def remeasured : List (Atom × Atom) :=
  [(.real ⟨0x8000000000000000⟩, .integer (-3)), (.integer 1, .integer 5),
    (.real ⟨0x3FF0000000000000⟩, .integer 7)]

end Sample

/-- The integer and the real are one key, whose later value counts; the rate before them may as well
come between them, and a text is no rate. -/
theorem Schema.Parsed.decode_entries_rates :
    Sample.network.Parsed
      ∧ Sample.network.table? "Switch" = some Sample.switches
      ∧ Sample.switches.column? "rates" = some Sample.rates
      ∧ Sample.rates.kind = .map
      ∧ Rearranges .real Sample.remeasured [(.integer 1, .integer 5),
        (.real ⟨0x8000000000000000⟩, .integer (-3)), (.real ⟨0x3FF0000000000000⟩, .integer 7)]
      ∧ (∃ m, Sample.rates.decode (.map Sample.remeasured) = .ok (.map m)
        ∧ m.get? (.real ⟨0x3FF0000000000000⟩) = some (.integer 7))
      ∧ Sample.rates.decode (.map Sample.remeasured) >>= Sample.rates.encode = .ok Sample.settled
      ∧ Sample.rates.decode Sample.measured >>= Sample.rates.encode = .ok Sample.settled
      ∧ ¬ ∃ value, Sample.rates.decode (.map [(.string "fast", .integer 5)]) = .ok value := by
  have present : Sample.network.table? "Switch" = some Sample.switches := rfl
  have listed : Sample.switches.column? "rates" = some Sample.rates := rfl
  obtain ⟨key, mapped, keyed, known, -, -, each⟩ :=
    decode_entries Sample.network_parsed present listed rfl
  cases keyed
  cases known
  obtain ⟨taken, counts, rearranged⟩ := each Sample.remeasured
  have rearranges : Rearranges .real Sample.remeasured [(.integer 1, .integer 5),
      (.real ⟨0x8000000000000000⟩, .integer (-3)), (.real ⟨0x3FF0000000000000⟩, .integer 7)] := by
    refine .intro [] [_] (.swap _ _ []) (List.pairwise_pair.mpr fun k zero one => ?_)
    have differ := (zero.reads_iff_eq.mp (.real _)).symm.trans (one.reads_iff_eq.mp (.whole _))
    exact absurd differ (by decide)
  have readable : ∀ entry ∈ Sample.remeasured,
      (∃ k, AtomicType.real.Reads entry.1 k) ∧ ∃ v, AtomicType.integer.Reads entry.2 v := by
    simp only [Sample.remeasured, List.forall_mem_cons]
    exact ⟨⟨⟨_, .real _⟩, _, .integer _⟩, ⟨⟨_, .whole _⟩, _, .integer _⟩,
      ⟨⟨_, .real _⟩, _, .integer _⟩, by simp⟩
  obtain ⟨value, decoded⟩ := taken.mpr readable
  obtain ⟨m, rfl, last, -⟩ := counts value decoded
  have recoded : Sample.rates.decode (.map Sample.remeasured) >>= Sample.rates.encode =
      .ok Sample.settled := rfl
  refine ⟨Sample.network_parsed, present, listed, rfl, rearranges, ⟨m, decoded, ?_⟩, recoded,
    ((rearranged _ rearranges).2 _).mp recoded, fun accepted => ?_⟩
  · exact (last _ _).mpr ⟨[_, _], _, [], rfl, ⟨.real _, .integer _⟩, by simp⟩
  · obtain ⟨⟨k, reads⟩, -⟩ := (each _).1.mp accepted _ (List.mem_singleton_self _)
    cases reads

end TableReplica
