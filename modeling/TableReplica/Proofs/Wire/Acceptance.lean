import TableReplica.Proofs.Wire.Grammar

/-!
# Accepting data

A JSON value is read as a datum exactly if it writes one. The datum that has been read is written
as the same value again, unless the value contains a whole number too large for a signed word, which
is read as a real. A value that writes no datum is refused for the first part of it that is out of
place (`Datum.ofJson_exact`).
-/

namespace TableReplica

namespace Json

/-- Whether a value writes the entry of a map. -/
inductive IsEntry : Json → Prop
  | pair {k v : Json} (key : k.IsAtom) (mapped : v.IsAtom) : IsEntry (.array [k, v])

/-! ## Numbers in values -/

/-- Whether a number occurs in a value. -/
inductive Contains (n : Number) : Json → Prop
  | number : Contains n (.number n)
  | item {items : List Json} {item : Json} (listed : item ∈ items) (inside : Contains n item) :
    Contains n (.array items)
  | member {members : List (String × Json)} {m : String × Json} (listed : m ∈ members)
    (inside : Contains n m.2) : Contains n (.object members)

/-- Whether no whole number in a value is too large for a signed word. -/
def FitsSigned (value : Json) : Prop := ∀ n isLarge, ¬ value.Contains (.large n isLarge)

theorem fitsSigned_number_iff {m : Number} :
    (Json.number m).FitsSigned ↔ ∀ n isLarge, m ≠ .large n isLarge := by
  refine forall₂_congr fun n isLarge => not_congr ⟨fun inside => ?_, fun same => same ▸ .number⟩
  cases inside
  rfl

theorem contains_array_iff {items : List Json} {n : Number} :
    (Json.array items).Contains n ↔ ∃ item ∈ items, item.Contains n := by
  constructor
  · intro inside
    cases inside with
    | item listed inside => exact ⟨_, listed, inside⟩
  · rintro ⟨item, listed, inside⟩
    exact .item listed inside

theorem fitsSigned_string (s : String) : (Json.string s).FitsSigned := nofun

theorem fitsSigned_array_iff {items : List Json} :
    (Json.array items).FitsSigned ↔ ∀ item ∈ items, item.FitsSigned := by
  simp only [FitsSigned, contains_array_iff, not_exists, not_and]
  exact ⟨fun fits item listed n isLarge => fits n isLarge item listed,
    fun fits n isLarge item listed => fits item listed n isLarge⟩

theorem fitsSigned_pair_iff {a b : Json} :
    (Json.array [a, b]).FitsSigned ↔ a.FitsSigned ∧ b.FitsSigned := by
  rw [fitsSigned_array_iff, List.forall_mem_cons, List.forall_mem_singleton]

/-- In a tagged list only its items count. -/
theorem fitsSigned_tagged_iff {tag : String} {items : List Json} :
    (Json.array [.string tag, .array items]).FitsSigned ↔ ∀ item ∈ items, item.FitsSigned := by
  rw [fitsSigned_pair_iff, fitsSigned_array_iff, and_iff_right (fitsSigned_string tag)]

end Json

/-! ## Atoms -/

namespace Atom

variable {value : Json} {a : Atom}

theorem isAtom_of_ofJson (read : ofJson value = .ok a) : value.IsAtom := by
  unfold ofJson at read
  split at read
  · exact .bool _
  · exact .string _
  · exact .number _
  · exact .uuid _
  · exact .namedUuid _
  · cases read

theorem notAtom_of_ofJson {cause : Malformed} (refused : ofJson value = .error cause) :
    ¬ value.IsAtom ∧ cause = .notAtom value := by
  constructor
  · intro single
    obtain ⟨a, read⟩ := single.exists_ofJson
    rw [refused] at read
    cases read
  · unfold ofJson at refused
    split at refused
    case h_6 =>
      cases refused
      rfl
    all_goals cases refused

theorem toJson_ofNumber_iff {n : Number} :
    (ofNumber n).toJson = .number n ↔ (Json.number n).FitsSigned := by
  rw [Json.fitsSigned_number_iff]
  cases n with
  | int i =>
    refine iff_of_true rfl fun _ _ same => ?_
    cases same
  | large m isLarge =>
    -- The real in its place is written as another kind of number.
    refine iff_of_false ?_ fun fits => fits m isLarge rfl
    change Json.ofReal _ ≠ _
    rw [Json.ofReal, Number.ofReal?]
    split_ifs <;> simp
  | real r isFinite =>
    refine iff_of_true ?_ fun _ _ same => ?_
    · change Json.ofReal r = _
      rw [Json.ofReal, Number.ofReal?, dif_pos isFinite]
    · cases same

theorem toJson_eq_iff (read : ofJson value = .ok a) : a.toJson = value ↔ value.FitsSigned := by
  cases isAtom_of_ofJson read with
  | number n =>
    cases read
    exact toJson_ofNumber_iff
  | bool b =>
    cases read
    exact iff_of_true rfl nofun
  | string s =>
    cases read
    exact iff_of_true rfl (Json.fitsSigned_string s)
  | uuid text | namedUuid text =>
    cases read
    exact iff_of_true rfl
      (Json.fitsSigned_pair_iff.mpr ⟨Json.fitsSigned_string _, Json.fitsSigned_string text⟩)

end Atom

/-- Elements that have been read are all written as before exactly if each of them is. -/
theorem map_eq_iff_of_forall₂ {α β : Type} {f : β → α} {P : α → Prop} {l : List α} {r : List β}
    (each : List.Forall₂ (fun a b => f b = a ↔ P a) l r) : r.map f = l ↔ ∀ a ∈ l, P a := by
  induction each with
  | nil => simp
  | cons first _ ih => rw [List.map_cons, List.cons.injEq, List.forall_mem_cons, first, ih]

namespace Datum

variable {value : Json} {d : Datum} {e : Atom × Atom} {cause : Malformed}

/-! ## Entries -/

/-- Why a value writes no entry of a map. -/
inductive EntryRefused : Json → Malformed → Prop
  | shape {item : Json} (noPair : ∀ k v, item ≠ .array [k, v]) :
    EntryRefused item (.entryNotPair item)
  | key {k v : Json} (noAtom : ¬ k.IsAtom) : EntryRefused (.array [k, v]) (.notAtom k)
  | mapped {k v : Json} (key : k.IsAtom) (noAtom : ¬ v.IsAtom) :
    EntryRefused (.array [k, v]) (.notAtom v)

theorem eq_pair_of_entryOfJson (read : entryOfJson value = .ok e) :
    ∃ k v, value = .array [k, v] ∧ Atom.ofJson k = .ok e.1 ∧ Atom.ofJson v = .ok e.2 := by
  unfold entryOfJson at read
  split at read
  next k v =>
    obtain ⟨a, key, read⟩ := Except.bind_eq_ok_iff.mp read
    obtain ⟨b, mapped, made⟩ := Except.bind_eq_ok_iff.mp read
    cases made
    exact ⟨k, v, rfl, key, mapped⟩
  next => cases read

theorem isEntry_of_entryOfJson (read : entryOfJson value = .ok e) : value.IsEntry := by
  obtain ⟨k, v, rfl, key, mapped⟩ := eq_pair_of_entryOfJson read
  exact .pair (Atom.isAtom_of_ofJson key) (Atom.isAtom_of_ofJson mapped)

theorem entryToJson_eq_iff (read : entryOfJson value = .ok e) :
    entryToJson e = value ↔ value.FitsSigned := by
  obtain ⟨k, v, rfl, key, mapped⟩ := eq_pair_of_entryOfJson read
  rw [Json.fitsSigned_pair_iff, ← Atom.toJson_eq_iff key, ← Atom.toJson_eq_iff mapped, entryToJson]
  simp

theorem entryRefused_of_entryOfJson (refused : entryOfJson value = .error cause) :
    EntryRefused value cause := by
  unfold entryOfJson at refused
  split at refused
  next k v =>
    rcases Except.bind_eq_error_iff.mp refused with key | ⟨a, key, refused⟩
    · obtain ⟨noAtom, rfl⟩ := Atom.notAtom_of_ofJson key
      exact .key noAtom
    · rcases Except.bind_eq_error_iff.mp refused with mapped | ⟨b, _, done⟩
      · obtain ⟨noAtom, rfl⟩ := Atom.notAtom_of_ofJson mapped
        exact .mapped (Atom.isAtom_of_ofJson key) noAtom
      · cases done
  next noPair =>
    cases refused
    exact .shape noPair

/-! ## Data -/

/-- Why a value writes no datum: the first part of it that is out of place. -/
inductive Refused : Json → Malformed → Prop
  /-- A value that carries neither of the two tags would have to be an atom. -/
  | atom {value : Json} (noSet : ∀ part, value ≠ .array [.string "set", part])
      (noMap : ∀ part, value ≠ .array [.string "map", part]) (noAtom : ¬ value.IsAtom) :
    Refused value (.notAtom value)
  | body {tag : String} {part : Json} (tagged : tag = "set" ∨ tag = "map")
      (noList : ∀ items, part ≠ .array items) :
    Refused (.array [.string tag, part]) (.bodyNotList tag part)
  | element {before after : List Json} {item : Json} (earlier : ∀ b ∈ before, b.IsAtom)
      (noAtom : ¬ item.IsAtom) :
    Refused (.array [.string "set", .array (before ++ item :: after)]) (.notAtom item)
  | entry {before after : List Json} {item : Json} {cause : Malformed}
      (earlier : ∀ b ∈ before, b.IsEntry) (refused : EntryRefused item cause) :
    Refused (.array [.string "map", .array (before ++ item :: after)]) cause

theorem isDatum_map {items : List Json} (each : ∀ item ∈ items, item.IsEntry) :
    (Json.array [.string "map", .array items]).IsDatum := by
  suffices written : ∃ entries : List (Json × Json),
      items = entries.map (fun e => .array [e.1, e.2]) ∧ ∀ e ∈ entries, e.1.IsAtom ∧ e.2.IsAtom by
    obtain ⟨entries, rfl, atoms⟩ := written
    exact .map atoms
  induction items with
  | nil => exact ⟨[], rfl, by simp⟩
  | cons item rest ih =>
    rw [List.forall_mem_cons] at each
    obtain ⟨entries, rfl, atoms⟩ := ih each.2
    cases each.1 with
    | @pair k v key mapped =>
      exact ⟨(k, v) :: entries, rfl, List.forall_mem_cons.mpr ⟨⟨key, mapped⟩, atoms⟩⟩

theorem isDatum_of_ofJson (read : ofJson value = .ok d) : value.IsDatum := by
  unfold ofJson at read
  split at read
  next items =>
    obtain ⟨atoms, images, -⟩ := Except.bind_eq_ok_iff.mp read
    refine .set fun item listed => ?_
    obtain ⟨a, image⟩ := Except.exists_image_of_mapM images listed
    exact Atom.isAtom_of_ofJson image
  next items =>
    obtain ⟨entries, images, -⟩ := Except.bind_eq_ok_iff.mp read
    refine isDatum_map fun item listed => ?_
    obtain ⟨e, image⟩ := Except.exists_image_of_mapM images listed
    exact isEntry_of_entryOfJson image
  next => cases read
  next => cases read
  next =>
    obtain ⟨a, single, -⟩ := Except.bind_eq_ok_iff.mp read
    exact .atom (Atom.isAtom_of_ofJson single)

theorem toJson_eq_iff (read : ofJson value = .ok d) : d.toJson = value ↔ value.FitsSigned := by
  unfold ofJson at read
  split at read
  next items =>
    obtain ⟨atoms, images, made⟩ := Except.bind_eq_ok_iff.mp read
    cases made
    have same : atoms.map Atom.toJson = items ↔ ∀ item ∈ items, item.FitsSigned :=
      map_eq_iff_of_forall₂ ((Except.mapM_eq_ok_iff.mp images).imp fun _ _ => Atom.toJson_eq_iff)
    rw [Json.fitsSigned_tagged_iff, ← same, toJson]
    simp
  next items =>
    obtain ⟨entries, images, made⟩ := Except.bind_eq_ok_iff.mp read
    cases made
    have same : entries.map entryToJson = items ↔ ∀ item ∈ items, item.FitsSigned :=
      map_eq_iff_of_forall₂ ((Except.mapM_eq_ok_iff.mp images).imp fun _ _ => entryToJson_eq_iff)
    rw [Json.fitsSigned_tagged_iff, ← same, toJson]
    simp
  next => cases read
  next => cases read
  next =>
    obtain ⟨a, single, made⟩ := Except.bind_eq_ok_iff.mp read
    cases made
    exact Atom.toJson_eq_iff single

theorem refused_of_ofJson (refused : ofJson value = .error cause) : Refused value cause := by
  unfold ofJson at refused
  split at refused
  next items =>
    rcases Except.bind_eq_error_iff.mp refused with refused | ⟨_, _, done⟩
    · obtain ⟨before, item, after, rfl, earlier, refused⟩ := Except.mapM_eq_error_iff.mp refused
      obtain ⟨noAtom, rfl⟩ := Atom.notAtom_of_ofJson refused
      refine .element (fun b member => ?_) noAtom
      obtain ⟨a, read⟩ := earlier b member
      exact Atom.isAtom_of_ofJson read
    · cases done
  next items =>
    rcases Except.bind_eq_error_iff.mp refused with refused | ⟨_, _, done⟩
    · obtain ⟨before, item, after, rfl, earlier, refused⟩ := Except.mapM_eq_error_iff.mp refused
      refine .entry (fun b member => ?_) (entryRefused_of_entryOfJson refused)
      obtain ⟨e, read⟩ := earlier b member
      exact isEntry_of_entryOfJson read
    · cases done
  next noList =>
    cases refused
    exact .body (.inl rfl) noList
  next noList =>
    cases refused
    exact .body (.inr rfl) noList
  next noSet noMap =>
    rcases Except.bind_eq_error_iff.mp refused with refused | ⟨_, _, done⟩
    · obtain ⟨noAtom, rfl⟩ := Atom.notAtom_of_ofJson refused
      exact .atom noSet noMap noAtom
    · cases done

/-- The values that are read as data are those that write data, and they are written again as they
were exactly if all whole numbers in them fit into signed words. Any other value is malformed, and
the first part of it that is out of place is told. -/
theorem ofJson_exact (value : Json) :
    ((∃ d, ofJson value = .ok d) ↔ value.IsDatum)
      ∧ (∀ d, ofJson value = .ok d → (d.toJson = value ↔ value.FitsSigned))
      ∧ ∀ cause, ofJson value = .error cause →
        Refused value cause ∧ read value = .error (.malformed cause) := by
  refine ⟨⟨?_, Json.IsDatum.exists_ofJson⟩, fun d => toJson_eq_iff, fun cause refused => ?_⟩
  · rintro ⟨d, accepted⟩
    exact isDatum_of_ofJson accepted
  · exact ⟨refused_of_ofJson refused, congrArg (Except.mapError ReadFault.malformed) refused⟩

end Datum

/-! ## An example -/

namespace Sample

/-- What the link to a port costs: the zero with a sign. -/
def linkCosts : Json :=
  .array [.string "map", .array [
    .array [.array [.string "uuid", .string "2f77b348-9768-4866-b761-89d5177ecda0"],
      .ofReal ⟨0x8000000000000000⟩]]]

/-- Two counts, of which one is too large for a signed word. -/
def counts : Json := .array [.string "set", .array [.ofInt (-1), .ofNat 0x8000000000000000]]

/-- A map with an entry that has a set for its value. -/
def nested : Json :=
  .array [.string "map", .array [
    .array [.string "up", .bool true], .array [.string "set", .array [.string "set", .array []]],
    .null]]

theorem linkCosts_fitsSigned : linkCosts.FitsSigned := by
  rw [linkCosts, Json.fitsSigned_tagged_iff, List.forall_mem_singleton, Json.fitsSigned_pair_iff,
    Json.fitsSigned_pair_iff]
  refine ⟨⟨Json.fitsSigned_string _, Json.fitsSigned_string _⟩, ?_⟩
  exact Json.fitsSigned_number_iff.mpr fun _ _ same => by cases same

theorem counts_not_fitsSigned : ¬ counts.FitsSigned := by
  rw [counts, Json.fitsSigned_tagged_iff]
  intro each
  exact each (.ofNat 0x8000000000000000) (by simp) 0x8000000000000000 (by decide) .number

end Sample

/-- The costs are got back, the counts are not, and of the nested map the inner set is refused. -/
theorem Datum.ofJson_exact_costs :
    (∃ d, Datum.ofJson Sample.linkCosts = .ok d ∧ d.toJson = Sample.linkCosts)
      ∧ (∃ d, Datum.ofJson Sample.counts = .ok d ∧ d.toJson ≠ Sample.counts)
      ∧ Datum.Refused Sample.nested (.notAtom (.array [.string "set", .array []])) := by
  refine ⟨?_, ?_, ?_⟩
  · obtain ⟨d, read⟩ : ∃ d, Datum.ofJson Sample.linkCosts = .ok d := ⟨_, rfl⟩
    exact ⟨d, read, ((Datum.ofJson_exact _).2.1 d read).mpr Sample.linkCosts_fitsSigned⟩
  · obtain ⟨d, read⟩ : ∃ d, Datum.ofJson Sample.counts = .ok d := ⟨_, rfl⟩
    exact ⟨d, read, fun same =>
      Sample.counts_not_fitsSigned (((Datum.ofJson_exact _).2.1 d read).mp same)⟩
  · exact ((Datum.ofJson_exact Sample.nested).2.2 _ rfl).1

end TableReplica
