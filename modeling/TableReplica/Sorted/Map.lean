/-!
# Sorted maps

Finite maps kept as lists of entries whose keys strictly ascend. Rows, tables, schemas and
map-valued columns are all of this type, so each of them has one representation: two sorted maps
that answer every lookup alike are equal (`SortedMap.ext_get?`), and a listing is always in key
order. The main statements say what `insert` and `erase` do to lookups.
-/

namespace TableReplica

universe u v w

/-- A finite map from `κ` to `α`, listed in strictly ascending order of its keys. -/
structure SortedMap (κ : Type u) (α : Type v) [Ord κ] where
  /-- The entries in key order. -/
  entries : List (κ × α)
  /-- Keys ascend strictly, so none occurs twice. -/
  ascending : entries.Pairwise (fun a b => compare a.1 b.1 = .lt)

namespace SortedMap

variable {κ : Type u} {α : Type v} {β : Type w} [Ord κ]

deriving instance DecidableEq for SortedMap

@[ext]
theorem ext {m n : SortedMap κ α} (same : m.entries = n.entries) : m = n := by
  cases m
  cases n
  cases same
  rfl

/-- The map without entries. -/
def empty : SortedMap κ α := ⟨[], .nil⟩

instance : EmptyCollection (SortedMap κ α) := ⟨empty⟩
instance : Inhabited (SortedMap κ α) := ⟨empty⟩

/-- The entries in key order. -/
def toList (m : SortedMap κ α) : List (κ × α) := m.entries

/-- The keys in ascending order. -/
def keys (m : SortedMap κ α) : List κ := m.entries.map Prod.fst

/-- The values in the order of their keys. -/
def values (m : SortedMap κ α) : List α := m.entries.map Prod.snd

/-- The number of entries. -/
def size (m : SortedMap κ α) : Nat := m.entries.length

/-- Whether there is no entry. -/
def isEmpty (m : SortedMap κ α) : Bool := m.entries.isEmpty

/-- The value of the first entry whose key equals `k`. -/
def lookup (k : κ) : List (κ × α) → Option α
  | [] => none
  | (k', a) :: rest => if compare k k' = .eq then some a else lookup k rest

/-- The value stored under `k`. -/
def get? (m : SortedMap κ α) (k : κ) : Option α := lookup k m.entries

/-- Whether `k` has a value. -/
def contains (m : SortedMap κ α) (k : κ) : Bool := (m.get? k).isSome

/-- The entries with `k` bound to `a`, put in its place or replacing the entry that was there. -/
def place (k : κ) (a : α) : List (κ × α) → List (κ × α)
  | [] => [(k, a)]
  | (k', a') :: rest =>
    match compare k k' with
    | .lt => (k, a) :: (k', a') :: rest
    | .eq => (k, a) :: rest
    | .gt => (k', a') :: place k a rest

theorem mem_place {k : κ} {a : α} {e : κ × α} {l : List (κ × α)} (member : e ∈ place k a l) :
    e = (k, a) ∨ e ∈ l := by
  induction l with
  | nil => simpa [place] using member
  | cons head rest ih =>
    obtain ⟨k', a'⟩ := head
    rw [place] at member
    split at member <;> grind

theorem mapValues_ascending (f : κ → α → β) {l : List (κ × α)}
    (sorted : l.Pairwise (fun a b => compare a.1 b.1 = .lt)) :
    (l.map fun e => (e.1, f e.1 e.2)).Pairwise (fun a b => compare a.1 b.1 = .lt) := by
  induction l with
  | nil => exact .nil
  | cons head rest ih =>
    rw [List.pairwise_cons] at sorted
    simp only [List.map_cons, List.pairwise_cons, List.mem_map]
    refine ⟨?_, ih sorted.2⟩
    rintro _ ⟨e, member, rfl⟩
    exact sorted.1 e member

/-- The map with every value replaced by its image. -/
def mapValues (f : κ → α → β) (m : SortedMap κ α) : SortedMap κ β :=
  ⟨m.entries.map fun e => (e.1, f e.1 e.2), mapValues_ascending f m.ascending⟩

theorem pairwise_of_keys {l : List (κ × α)} {r : List (κ × β)}
    (same : r.map Prod.fst = l.map Prod.fst)
    (sorted : l.Pairwise (fun a b => compare a.1 b.1 = .lt)) :
    r.Pairwise (fun a b => compare a.1 b.1 = .lt) := by
  rw [← List.pairwise_map (f := Prod.fst) (R := fun a b => compare a b = .lt)] at sorted ⊢
  rwa [same]

/-- Entries with every value replaced by its image, unless one of them has none. -/
def mapEntriesExcept {ε : Type} (f : κ → α → Except ε β) :
    (l : List (κ × α)) → Except ε { r : List (κ × β) // r.map Prod.fst = l.map Prod.fst }
  | [] => .ok ⟨[], rfl⟩
  | (k, a) :: rest =>
    match f k a with
    | .error e => .error e
    | .ok b =>
      match mapEntriesExcept f rest with
      | .error e => .error e
      | .ok ⟨r, same⟩ => .ok ⟨(k, b) :: r, by simp [same]⟩

/-- The map with every value replaced by its image; the first value in key order that has none
decides how it fails. -/
def mapValuesExcept {ε : Type} (f : κ → α → Except ε β) (m : SortedMap κ α) :
    Except ε (SortedMap κ β) :=
  match mapEntriesExcept f m.entries with
  | .error e => .error e
  | .ok ⟨r, same⟩ => .ok ⟨r, pairwise_of_keys same m.ascending⟩

theorem filterMap_ascending (f : κ → α → Option β) {l : List (κ × α)}
    (sorted : l.Pairwise (fun a b => compare a.1 b.1 = .lt)) :
    (l.filterMap fun e => (f e.1 e.2).map (e.1, ·)).Pairwise
      (fun a b => compare a.1 b.1 = .lt) := by
  rw [List.pairwise_filterMap]
  refine sorted.imp ?_
  intro a b below a' ha b' hb
  obtain ⟨_, _, rfl⟩ := Option.map_eq_some_iff.mp ha
  obtain ⟨_, _, rfl⟩ := Option.map_eq_some_iff.mp hb
  exact below

/-- The map with every value replaced by its image, without the entries whose value has none. -/
def filterMap (f : κ → α → Option β) (m : SortedMap κ α) : SortedMap κ β :=
  ⟨m.entries.filterMap fun e => (f e.1 e.2).map (e.1, ·), filterMap_ascending f m.ascending⟩

/-- The entries that `keep` accepts. -/
def filter (keep : κ → α → Bool) (m : SortedMap κ α) : SortedMap κ α :=
  ⟨m.entries.filter fun e => keep e.1 e.2, m.ascending.sublist List.filter_sublist⟩

/-- The map without the entry under `k`. -/
def erase (m : SortedMap κ α) (k : κ) : SortedMap κ α :=
  m.filter fun k' _ => compare k k' != .eq

section Ordered

variable [Std.TransOrd κ]

theorem place_ascending (k : κ) (a : α) {l : List (κ × α)}
    (sorted : l.Pairwise (fun a b => compare a.1 b.1 = .lt)) :
    (place k a l).Pairwise (fun a b => compare a.1 b.1 = .lt) := by
  induction l with
  | nil => simp [place]
  | cons head rest ih =>
    obtain ⟨k', a'⟩ := head
    rw [List.pairwise_cons] at sorted
    rw [place]
    split
    next order =>
      refine .cons ?_ (.cons sorted.1 sorted.2)
      intro e member
      rcases List.mem_cons.mp member with rfl | member
      · exact order
      · exact Std.TransCmp.lt_trans order (sorted.1 e member)
    next order =>
      refine .cons ?_ sorted.2
      intro e member
      exact Std.TransCmp.lt_of_eq_of_lt order (sorted.1 e member)
    next order =>
      refine .cons ?_ (ih sorted.2)
      intro e member
      rcases mem_place member with rfl | member
      · exact Std.OrientedCmp.gt_iff_lt.mp order
      · exact sorted.1 e member

/-- The map with `k` bound to `a`, whatever it was bound to before. -/
def insert (m : SortedMap κ α) (k : κ) (a : α) : SortedMap κ α :=
  ⟨place k a m.entries, place_ascending k a m.ascending⟩

/-- The map of a list of pairs; of several pairs with one key the last counts. -/
def ofList (l : List (κ × α)) : SortedMap κ α :=
  l.foldl (fun m e => m.insert e.1 e.2) empty

end Ordered

/-! ## Lookups -/

section Lookup

theorem get?_empty (k : κ) : (empty : SortedMap κ α).get? k = none := rfl

variable [Std.LawfulEqOrd κ]

theorem lookup_place_self (k : κ) (a : α) (l : List (κ × α)) : lookup k (place k a l) = some a := by
  induction l with
  | nil => simp [place, lookup]
  | cons head rest ih =>
    obtain ⟨k', a'⟩ := head
    rw [place]
    split
    next => simp [lookup]
    next => simp [lookup]
    next order => simp [lookup, order, ih]

theorem lookup_place_of_ne {k k' : κ} (ne : k' ≠ k) (a : α) (l : List (κ × α)) :
    lookup k' (place k a l) = lookup k' l := by
  have distinct : compare k' k ≠ .eq := fun same => ne (Std.LawfulEqOrd.eq_of_compare same)
  induction l with
  | nil => simp [place, lookup, distinct]
  | cons head rest ih =>
    obtain ⟨k₁, a₁⟩ := head
    rw [place]
    split
    next => simp [lookup, distinct]
    next order =>
      cases Std.LawfulEqOrd.eq_of_compare order
      simp [lookup, distinct]
    next => simp [lookup, ih]

theorem lookup_eq_some_iff {l : List (κ × α)}
    (sorted : l.Pairwise (fun a b => compare a.1 b.1 = .lt)) {k : κ} {a : α} :
    lookup k l = some a ↔ (k, a) ∈ l := by
  induction l with
  | nil => simp [lookup]
  | cons head rest ih =>
    obtain ⟨k', a'⟩ := head
    rw [List.pairwise_cons] at sorted
    rw [lookup]
    split
    next same =>
      cases Std.LawfulEqOrd.eq_of_compare same
      simp only [Option.some.injEq, List.mem_cons, Prod.mk.injEq, true_and]
      constructor
      · exact fun equal => .inl equal.symm
      · rintro (equal | member)
        · exact equal.symm
        · have := sorted.1 _ member
          simp at this
    next distinct =>
      rw [ih sorted.2]
      simp only [List.mem_cons, Prod.mk.injEq]
      constructor
      · exact .inr
      · rintro (⟨rfl, _⟩ | member)
        · simp at distinct
        · exact member

/-- Lookups answer exactly what the listing holds. -/
theorem get?_eq_some_iff {m : SortedMap κ α} {k : κ} {a : α} :
    m.get? k = some a ↔ (k, a) ∈ m.toList :=
  lookup_eq_some_iff m.ascending

theorem get?_filter (keep : κ → α → Bool) (m : SortedMap κ α) (k : κ) :
    (m.filter keep).get? k = (m.get? k).filter (keep k) := by
  cases found : m.get? k with
  | none =>
    cases kept : (m.filter keep).get? k with
    | none => rfl
    | some a =>
      have := (List.mem_filter.mp (get?_eq_some_iff.mp kept)).1
      rw [get?_eq_some_iff.mpr this] at found
      cases found
  | some a =>
    have member := get?_eq_some_iff.mp found
    cases kept : keep k a with
    | true =>
      rw [get?_eq_some_iff.mpr (List.mem_filter.mpr ⟨member, kept⟩)]
      simp [Option.filter, kept]
    | false =>
      cases still : (m.filter keep).get? k with
      | none => simp [Option.filter, kept]
      | some a' =>
        have ⟨member', kept'⟩ := List.mem_filter.mp (get?_eq_some_iff.mp still)
        rw [get?_eq_some_iff.mpr member'] at found
        cases found
        simp [kept] at kept'

@[simp]
theorem get?_erase_self (m : SortedMap κ α) (k : κ) : (m.erase k).get? k = none := by
  rw [erase, get?_filter]
  cases m.get? k <;> simp [Option.filter]

theorem get?_erase_of_ne (m : SortedMap κ α) {k k' : κ} (ne : k' ≠ k) :
    (m.erase k).get? k' = m.get? k' := by
  have distinct : compare k k' ≠ .eq := fun same => ne (Std.LawfulEqOrd.eq_of_compare same).symm
  rw [erase, get?_filter]
  cases m.get? k' <;> simp [Option.filter, distinct]

variable [Std.TransOrd κ]

@[simp]
theorem get?_insert_self (m : SortedMap κ α) (k : κ) (a : α) : (m.insert k a).get? k = some a :=
  lookup_place_self k a m.entries

theorem get?_insert_of_ne (m : SortedMap κ α) {k k' : κ} (ne : k' ≠ k) (a : α) :
    (m.insert k a).get? k' = m.get? k' :=
  lookup_place_of_ne ne a m.entries

theorem get?_insert [DecidableEq κ] (m : SortedMap κ α) (k k' : κ) (a : α) :
    (m.insert k a).get? k' = if k' = k then some a else m.get? k' := by
  split
  next same => rw [same, get?_insert_self]
  next ne => exact get?_insert_of_ne m ne a

theorem entries_eq_of_mem_iff {l r : List (κ × α)}
    (sortedLeft : l.Pairwise (fun a b => compare a.1 b.1 = .lt))
    (sortedRight : r.Pairwise (fun a b => compare a.1 b.1 = .lt))
    (same : ∀ e, e ∈ l ↔ e ∈ r) : l = r := by
  induction l generalizing r with
  | nil =>
    cases r with
    | nil => rfl
    | cons head _ => exact absurd ((same head).mpr (by simp)) (by simp)
  | cons a l ih =>
    cases r with
    | nil => exact absurd ((same a).mp (by simp)) (by simp)
    | cons b r =>
      rw [List.pairwise_cons] at sortedLeft sortedRight
      have heads : a = b := by
        rcases List.mem_cons.mp ((same a).mp (by simp)) with equal | inRight
        · exact equal
        · rcases List.mem_cons.mp ((same b).mpr (by simp)) with equal | inLeft
          · exact equal.symm
          · have below := sortedLeft.1 b inLeft
            have above := sortedRight.1 a inRight
            rw [Std.OrientedCmp.gt_iff_lt.mpr below] at above
            cases above
      subst heads
      congr 1
      refine ih sortedLeft.2 sortedRight.2 fun e => ?_
      have irreflexive : ∀ e : κ × α, compare e.1 e.1 ≠ .lt := by simp
      constructor
      · intro member
        rcases List.mem_cons.mp ((same e).mp (by simp [member])) with rfl | member'
        · exact absurd (sortedLeft.1 _ member) (irreflexive _)
        · exact member'
      · intro member
        rcases List.mem_cons.mp ((same e).mpr (by simp [member])) with rfl | member'
        · exact absurd (sortedRight.1 _ member) (irreflexive _)
        · exact member'

/-- Two sorted maps that answer every lookup alike are equal. -/
theorem ext_get? {m n : SortedMap κ α} (same : ∀ k, m.get? k = n.get? k) : m = n := by
  apply ext
  refine entries_eq_of_mem_iff m.ascending n.ascending fun e => ?_
  have := same e.1
  constructor
  · intro member
    exact get?_eq_some_iff.mp (this ▸ get?_eq_some_iff.mpr member)
  · intro member
    exact get?_eq_some_iff.mp (this ▸ get?_eq_some_iff.mpr member)

end Lookup

end SortedMap

end TableReplica
